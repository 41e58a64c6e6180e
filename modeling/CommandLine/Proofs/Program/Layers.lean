import CommandLine.Program.Settings
import CommandLine.Proofs.Fallible
import Mathlib.Data.List.Forall2

/-!
# Layers of assignments

Texts that assign values to names come in layers. What a layer says about a name is the value of its
last assignment to it (`Layer.Says`), and of several layers the first counts that says anything
(`FirstSaid`). The tables that are made of assignments bind a name to what the layer says of it:
`getElem?_of_assign` for the settings, `getElem?_of_extractOverrides` for one invocation.
-/

namespace CommandLine

/-! ## Assignments -/

namespace Assignment

/-- The text assigns the value to the key: in front of its first `=` stands the key, perhaps between
blanks, and behind it the value. -/
def Assigns (key text value : String) : Prop :=
  ∃ front : String, text = front ++ "=" ++ value ∧ '=' ∉ front.toList ∧ Text.trim front = key

/-- The token overrides the property: behind `-D` it assigns the value to it. -/
def Overrides (key token value : String) : Prop :=
  ∃ text, token = "-D" ++ text ∧ Assigns key text value

theorem read?_eq_some_iff {text key value : String} :
    read? text = some (key, value) ↔ key ≠ "" ∧ Assigns key text value := by
  unfold read? Assigns
  constructor
  · intro h
    split at h
    · rename_i front value' hcut
      obtain ⟨htext, hfront⟩ := Text.cutAt?_eq_some_iff.1 hcut
      dsimp only at h
      split at h
      · cases h
      · rename_i hkey
        obtain ⟨rfl, rfl⟩ : String.ofList (Text.trimChars front) = key ∧
            String.ofList value' = value := by simpa using h
        refine ⟨fun h => hkey ?_, String.ofList front, ?_, by simpa using hfront,
          by simp [Text.trim]⟩
        · simpa using congrArg String.toList h
        · exact String.toList_inj.1 (by simp [htext])
    · cases h
  · rintro ⟨hkey, front, rfl, hfront, rfl⟩
    have hcut : Text.cutAt? '=' (front ++ "=" ++ value).toList =
        some (front.toList, value.toList) := Text.cutAt?_eq_some_iff.2 ⟨by simp, hfront⟩
    have hblank : (Text.trimChars front.toList).isEmpty = false := by
      rw [← Text.toList_trim, ← Bool.not_eq_true, List.isEmpty_iff]
      exact fun h => hkey (String.toList_inj.1 h)
    rw [hcut]
    simp [hblank, Text.trim]

theorem override?_eq_some_iff {token text : String} :
    override? token = some text ↔ token = "-D" ++ text ∧ '=' ∈ text.toList := by
  unfold override?
  constructor
  · intro h
    split at h
    · rename_i assignment htoken
      split at h
      · rename_i hsign
        obtain rfl : String.ofList assignment = text := by simpa using h
        exact ⟨String.toList_inj.1 (by simp [htoken]), by simpa using hsign⟩
      · cases h
    · cases h
  · rintro ⟨rfl, hsign⟩
    simp [hsign]

theorem Assigns.sign_mem {key text value : String} (h : Assigns key text value) :
    '=' ∈ text.toList := by
  obtain ⟨front, rfl, -⟩ := h
  simp

theorem Assigns.suffix {key text value : String} (h : Assigns key text value) :
    value.toList <:+ text.toList := by
  obtain ⟨front, rfl, -⟩ := h
  exact ⟨front.toList ++ ['='], by simp⟩

theorem Overrides.suffix {key token value : String} (h : Overrides key token value) :
    value.toList <:+ token.toList := by
  obtain ⟨text, rfl, hassigns⟩ := h
  exact hassigns.suffix.trans ⟨['-', 'D'], by simp⟩

end Assignment

/-! ## Layers -/

/-- Texts, and which values they assign to a name. -/
structure Layer where
  assigns : String → String → Prop
  texts : List String

namespace Layer

/-- What a layer says about the name: the value of the last text that assigns one, or nothing. -/
inductive Says (l : Layer) : Option String → Prop
  | last {before after : List String} {text value : String}
      (htexts : l.texts = before ++ text :: after) (hassigns : l.assigns text value)
      (hlater : ∀ other ∈ after, ∀ value', ¬ l.assigns other value') : Says l (some value)
  | silent (h : ∀ text ∈ l.texts, ∀ value, ¬ l.assigns text value) : Says l none

variable {assigns : String → String → Prop} {text : String} {rest : List String}
  {said : Option String}

theorem says_cons_iff :
    Says ⟨assigns, text :: rest⟩ said ↔
      (Says ⟨assigns, rest⟩ said ∧ (said = none → ∀ value, ¬ assigns text value)) ∨
        ∃ value, said = some value ∧ assigns text value ∧ Says ⟨assigns, rest⟩ none := by
  constructor
  · rintro (@⟨before, after, found, value, htexts, hassigns, hlater⟩ | ⟨h⟩)
    · cases before with
      | nil =>
        obtain ⟨rfl, rfl⟩ : text = found ∧ rest = after := by simpa using htexts
        exact .inr ⟨value, rfl, hassigns, .silent hlater⟩
      | cons first before =>
        obtain ⟨-, hrest⟩ : text = first ∧ rest = before ++ found :: after := by simpa using htexts
        exact .inl ⟨.last hrest hassigns hlater, nofun⟩
    · obtain ⟨htext, hrest⟩ := List.forall_mem_cons.1 h
      exact .inl ⟨.silent hrest, fun _ => htext⟩
  · rintro (⟨@⟨before, _, _, _, htexts, hassigns, hlater⟩ | ⟨h⟩, htext⟩ |
      ⟨value, rfl, hassigns, (_ | ⟨h⟩)⟩)
    · have hcons : text :: rest = (text :: before) ++ _ := congrArg (text :: ·) htexts
      exact .last hcons hassigns hlater
    · exact .silent (List.forall_mem_cons.2 ⟨htext rfl, h⟩)
    · have hcons : text :: rest = [] ++ text :: rest := rfl
      exact .last hcons hassigns h

theorem exists_said (l : Layer) : ∃ said, l.Says said := by
  obtain ⟨assigns, texts⟩ := l
  induction texts with
  | nil => exact ⟨none, .silent nofun⟩
  | cons text rest ih =>
    obtain ⟨said, hsaid⟩ := ih
    cases said with
    | some value => exact ⟨some value, says_cons_iff.2 (.inl ⟨hsaid, nofun⟩)⟩
    | none =>
      by_cases htext : ∃ value, assigns text value
      · obtain ⟨value, hvalue⟩ := htext
        exact ⟨some value, says_cons_iff.2 (.inr ⟨value, rfl, hvalue, hsaid⟩)⟩
      · exact ⟨none, says_cons_iff.2 (.inl ⟨hsaid, fun _ => not_exists.1 htext⟩)⟩

theorem Says.exists_assigns {l : Layer} {value : String} (h : l.Says (some value)) :
    ∃ text ∈ l.texts, l.assigns text value := by
  cases h with
  | last htexts hassigns hlater => exact ⟨_, by simp [htexts], hassigns⟩

end Layer

/-- What the first of the layers says that says anything, or else the given text. -/
inductive FirstSaid (otherwise : String) : List Layer → String → Prop
  | here {l : Layer} {rest : List Layer} {value : String} (h : l.Says (some value)) :
      FirstSaid otherwise (l :: rest) value
  | later {l : Layer} {rest : List Layer} {value : String} (h : l.Says none)
      (hrest : FirstSaid otherwise rest value) : FirstSaid otherwise (l :: rest) value
  | otherwise : FirstSaid otherwise [] otherwise

namespace FirstSaid

theorem exists_firstSaid (otherwise : String) (layers : List Layer) :
    ∃ value, FirstSaid otherwise layers value := by
  induction layers with
  | nil => exact ⟨otherwise, .otherwise⟩
  | cons l rest ih =>
    obtain ⟨said, hsaid⟩ := l.exists_said
    cases said with
    | some value => exact ⟨value, .here hsaid⟩
    | none =>
      obtain ⟨value, hvalue⟩ := ih
      exact ⟨value, .later hsaid hvalue⟩

/-- It is the first of the answers that the layers give, if these are what the layers say. -/
theorem eq_of_answers {otherwise value : String} {layers : List Layer}
    {answers : List (Option String)} (h : FirstSaid otherwise layers value)
    (hanswers : List.Forall₂ (fun l answer => ∀ said, Layer.Says l said → answer = said) layers
      answers) :
    value = (answers.findSome? id).getD otherwise := by
  induction h generalizing answers with
  | here hsaid =>
    obtain ⟨answer, others, hanswer, -, rfl⟩ := List.forall₂_cons_left_iff.1 hanswers
    simp [hanswer _ hsaid]
  | later hsaid hrest ih =>
    obtain ⟨answer, others, hanswer, hothers, rfl⟩ := List.forall₂_cons_left_iff.1 hanswers
    rw [List.findSome?_cons, hanswer _ hsaid]
    exact ih hothers
  | otherwise =>
    obtain rfl := List.forall₂_nil_left_iff.1 hanswers
    rfl

theorem eq_or_assigns {otherwise value : String} {layers : List Layer}
    (h : FirstSaid otherwise layers value) :
    value = otherwise ∨ ∃ l ∈ layers, ∃ text ∈ l.texts, l.assigns text value := by
  induction h with
  | here hsaid => exact .inr ⟨_, List.mem_cons_self, hsaid.exists_assigns⟩
  | later _ _ ih =>
    refine ih.imp id ?_
    rintro ⟨l, hl, hassigns⟩
    exact ⟨l, List.mem_cons_of_mem _ hl, hassigns⟩
  | otherwise => exact .inl rfl

end FirstSaid

/-! ## Tables of assignments -/

section Tables

open Assignment

variable {key : String}

theorem Assignment.assigns_iff_of_read? {text name value : String}
    (h : read? text = some (name, value)) (hkey : key ≠ "") (value' : String) :
    Assigns key text value' ↔ name = key ∧ value = value' := by
  constructor
  · intro hassigns
    have hread := read?_eq_some_iff.2 ⟨hkey, hassigns⟩
    rw [h] at hread
    simpa using hread
  · rintro ⟨rfl, rfl⟩
    exact (read?_eq_some_iff.1 h).2

theorem getElem?_insert_of_said {assigns : String → String → Prop} {text name value : String}
    {rest : List String} {said : Option String} (table : Table String)
    (hassigns : ∀ value', assigns text value' ↔ name = key ∧ value = value')
    (hsaid : Layer.Says ⟨assigns, text :: rest⟩ said) :
    ∃ said', Layer.Says ⟨assigns, rest⟩ said' ∧
      said'.or (table.insert name value)[key]? = said.or table[key]? := by
  have hinsert := Std.TreeMap.getElem?_insert (t := table) (k := name) (a := key) (v := value)
  rcases Layer.says_cons_iff.1 hsaid with ⟨hrest, htext⟩ | ⟨found, rfl, hfound, hrest⟩
  · refine ⟨said, hrest, ?_⟩
    cases said with
    | some found => rfl
    | none =>
      have hname : name ≠ key := fun h => htext rfl value ((hassigns value).2 ⟨h, rfl⟩)
      rw [hinsert, if_neg (by simpa using hname)]
  · obtain ⟨rfl, rfl⟩ := (hassigns found).1 hfound
    exact ⟨none, hrest, by simp⟩

/-- The settings bind a name to what the assignments say of it. -/
theorem Settings.getElem?_of_assign (hkey : key ≠ "") {texts : List String}
    {table result : Table String} (h : assign table texts = .ok result) {said : Option String}
    (hsaid : Layer.Says ⟨Assigns key, texts⟩ said) : result[key]? = said.or table[key]? := by
  induction texts generalizing table said with
  | nil =>
    obtain rfl : table = result := Except.ok.inj h
    cases hsaid with
    | last htexts => simp at htexts
    | silent => rfl
  | cons text rest ih =>
    rw [assign] at h
    obtain ⟨⟨name, value⟩, hread, h⟩ := Except.bind_eq_ok_iff.1 h
    have hread : read? text = some (name, value) := by
      unfold ofSetting at hread
      split at hread
      · rename_i assignment hassignment
        rw [hassignment, Except.ok.inj hread]
      · cases hread
    obtain ⟨said', hrest, heq⟩ :=
      getElem?_insert_of_said table (assigns_iff_of_read? hread hkey) hsaid
    rw [← heq]
    exact ih h hrest

/-- The overrides of an invocation bind a name to what the tokens say of it. -/
theorem Assignment.getElem?_of_go (hkey : key ≠ "") {tokens : List String}
    {found overrides : Table String} {others : List String}
    (h : extractOverrides.go found tokens = .ok (overrides, others)) {said : Option String}
    (hsaid : Layer.Says ⟨Overrides key, tokens⟩ said) : overrides[key]? = said.or found[key]? := by
  induction tokens generalizing found others said with
  | nil =>
    obtain ⟨rfl, -⟩ : found = overrides ∧ [] = others := by
      simpa [extractOverrides.go] using h
    cases hsaid with
    | last htexts => simp at htexts
    | silent => rfl
  | cons token rest ih =>
    rw [extractOverrides.go] at h
    cases hoverride : override? token with
    | none =>
      have hsilent : ∀ value, ¬ Overrides key token value := by
        rintro value ⟨text, rfl, hassigns⟩
        rw [override?_eq_some_iff.2 ⟨rfl, hassigns.sign_mem⟩] at hoverride
        cases hoverride
      simp only [hoverride] at h
      obtain ⟨⟨overrides', others'⟩, hgo, ⟨⟩⟩ := Except.map_eq_ok_iff.1 h
      rcases Layer.says_cons_iff.1 hsaid with ⟨hrest, -⟩ | ⟨value, -, hvalue, -⟩
      · exact ih hgo hrest
      · exact absurd hvalue (hsilent value)
    | some text =>
      simp only [hoverride] at h
      cases hread : read? text with
      | none =>
        simp only [hread] at h
        cases h
      | some assignment =>
        obtain ⟨name, value⟩ := assignment
        simp only [hread] at h
        have htoken : token = "-D" ++ text := (override?_eq_some_iff.1 hoverride).1
        have hassigns : ∀ value', Overrides key token value' ↔ name = key ∧ value = value' := by
          intro value'
          rw [← assigns_iff_of_read? hread hkey]
          constructor
          · rintro ⟨text', htext', hassigns⟩
            obtain rfl : text = text' := by
              have hchars := congrArg String.toList (htoken.symm.trans htext')
              exact String.toList_inj.1 (by simpa using hchars)
            exact hassigns
          · exact fun hassigns => ⟨text, htoken, hassigns⟩
        obtain ⟨said', hrest, heq⟩ := getElem?_insert_of_said found hassigns hsaid
        rw [← heq]
        exact ih h hrest

theorem Assignment.getElem?_of_extractOverrides (hkey : key ≠ "") {tokens : List String}
    {overrides : Table String} {others : List String}
    (h : extractOverrides tokens = .ok (overrides, others)) {said : Option String}
    (hsaid : Layer.Says ⟨Overrides key, tokens⟩ said) : overrides[key]? = said := by
  rw [getElem?_of_go hkey h hsaid]
  simp

end Tables

end CommandLine
