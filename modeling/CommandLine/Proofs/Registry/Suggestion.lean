import CommandLine.Proofs.Registry.Exactness
import CommandLine.Proofs.Text.EditDistance
import CommandLine.Registry.Suggestion

/-!
# Suggestions are nearest

`Suggests` says what is suggested for a text: the first name that the text is the beginning of, or
else the first of the names that are least edits away, if these are few for the length of the text.
`suggest?_eq_iff`: this is what the registry suggests, and nothing else. `suggestions_exact` says it
of unknown commands, with the edit distance as the least number of edits.
-/

namespace CommandLine.Registry

open Text

variable {names : List String} {text name : String}

/-! ## The first of some names -/

/-- The first of the names that have a property. -/
structure IsFirst (P : String → Prop) (names : List String) (name : String) : Prop where
  holds : P name
  first : ∃ before after, names = before ++ name :: after ∧ ∀ other ∈ before, ¬ P other

theorem IsFirst.mem {P : String → Prop} (h : IsFirst P names name) : name ∈ names := by
  obtain ⟨before, after, rfl, -⟩ := h.first
  simp

theorem find?_eq_some_iff {P : String → Prop} [DecidablePred P] :
    names.find? (P ·) = some name ↔ IsFirst P names name := by
  rw [List.find?_eq_some_iff_append]
  constructor
  · rintro ⟨hname, before, after, hnames, hbefore⟩
    exact ⟨by simpa using hname, before, after, hnames, by simpa using hbefore⟩
  · rintro ⟨hname, before, after, hnames, hbefore⟩
    exact ⟨by simpa using hname, before, after, hnames, by simpa using hbefore⟩

theorem IsFirst.unique {P : String → Prop} {other : String} (h : IsFirst P names name)
    (h' : IsFirst P names other) : name = other := by
  classical
  exact Option.some.inj ((find?_eq_some_iff.2 h).symm.trans (find?_eq_some_iff.2 h'))

/-! ## Nearest names -/

/-- No name is nearer to the text. -/
def Least (names : List String) (text name : String) : Prop :=
  ∀ other ∈ names, editDistance text name ≤ editDistance text other

theorem nearest?_eq_none_iff : nearest? text names = none ↔ names = [] := by
  cases names with
  | nil => simp [nearest?]
  | cons name rest =>
    rw [nearest?]
    cases nearest? text rest with
    | none => simp
    | some other =>
      dsimp only
      split <;> simp

theorem exists_of_nearest? {distance : Nat} (h : nearest? text names = some (name, distance)) :
    distance = editDistance text name ∧ Least names text name ∧
      ∃ before after, names = before ++ name :: after ∧
        ∀ other ∈ before, editDistance text name < editDistance text other := by
  induction names generalizing name distance with
  | nil => cases h
  | cons candidate rest ih =>
    rw [nearest?] at h
    cases hrest : nearest? text rest with
    | none =>
      rw [hrest] at h
      cases h
      obtain rfl := nearest?_eq_none_iff.1 hrest
      exact ⟨rfl, List.forall_mem_singleton.2 (Nat.le_refl _), [], [], rfl, nofun⟩
    | some other =>
      obtain ⟨name', distance'⟩ := other
      obtain ⟨rfl, hleast, before, after, hnames, hbefore⟩ := ih hrest
      rw [hrest] at h
      dsimp only at h
      split at h
      · rename_i hle
        cases h
        refine ⟨rfl, List.forall_mem_cons.2 ⟨Nat.le_refl _, fun n hn => ?_⟩, [], rest, rfl, nofun⟩
        exact Nat.le_trans hle (hleast n hn)
      · rename_i hlt
        cases h
        have hcandidate := Nat.lt_of_not_le hlt
        exact ⟨rfl, List.forall_mem_cons.2 ⟨Nat.le_of_lt hcandidate, hleast⟩, candidate :: before,
          after, congrArg _ hnames, List.forall_mem_cons.2 ⟨hcandidate, hbefore⟩⟩

theorem isFirst_of_nearest? {distance : Nat} (h : nearest? text names = some (name, distance)) :
    distance = editDistance text name ∧ IsFirst (Least names text) names name := by
  obtain ⟨rfl, hleast, before, after, hnames, hbefore⟩ := exists_of_nearest? h
  refine ⟨rfl, hleast, before, after, hnames, fun other hother hleast' => ?_⟩
  have hmem : name ∈ names := by simp [hnames]
  exact absurd (hleast' name hmem) (Nat.not_le_of_lt (hbefore other hother))

/-! ## Suggestions -/

/-- One edit is always few, two are for texts of more than four characters, and three for texts of
more than eight. -/
def Few (text : String) (edits : Nat) : Prop :=
  edits ≤ 1 ∨ (4 < text.length ∧ edits ≤ 2) ∨ (8 < text.length ∧ edits ≤ 3)

theorem Few.of_le {edits edits' : Nat} (h : Few text edits) (hle : edits' ≤ edits) :
    Few text edits' := by
  unfold Few at h ⊢
  omega

theorem le_reach_iff {edits : Nat} : edits ≤ reach text.length ↔ Few text edits := by
  unfold reach Few
  split
  · omega
  · split <;> omega

/-- What is suggested for a text, if anything is. -/
inductive Suggests (names : List String) (text : String) : Option String → Prop
  | beginning {name : String} (hne : text ≠ "")
      (h : IsFirst (fun n => text.toList <+: n.toList) names name) :
      Suggests names text (some name)
  | near {name : String} (hne : text ≠ "") (hnot : ∀ n ∈ names, ¬ text.toList <+: n.toList)
      (h : IsFirst (Least names text) names name) (hfew : Few text (editDistance text name)) :
      Suggests names text (some name)
  | far (hne : text ≠ "") (hnot : ∀ n ∈ names, ¬ text.toList <+: n.toList)
      (hfar : ∀ n ∈ names, ¬ Few text (editDistance text n)) : Suggests names text none
  | empty (h : text = "") : Suggests names text none

namespace Suggests

variable {s? s'? : Option String}

theorem mem (h : Suggests names text (some name)) : name ∈ names := by
  cases h with
  | beginning hne h => exact h.mem
  | near hne hnot h hfew => exact h.mem

theorem unique (h : Suggests names text s?) (h' : Suggests names text s'?) : s? = s'? := by
  cases h with
  | beginning hne h =>
    cases h' with
    | beginning hne' h' => rw [h.unique h']
    | near hne' hnot h' hfew => exact absurd h.holds (hnot _ h.mem)
    | far hne' hnot hfar => exact absurd h.holds (hnot _ h.mem)
    | empty hempty => exact absurd hempty hne
  | near hne hnot h hfew =>
    cases h' with
    | beginning hne' h' => exact absurd h'.holds (hnot _ h'.mem)
    | near hne' hnot' h' hfew' => rw [h.unique h']
    | far hne' hnot' hfar => exact absurd hfew (hfar _ h.mem)
    | empty hempty => exact absurd hempty hne
  | far hne hnot hfar =>
    cases h' with
    | beginning hne' h' => exact absurd h'.holds (hnot _ h'.mem)
    | near hne' hnot' h' hfew => exact absurd hfew (hfar _ h'.mem)
    | far => rfl
    | empty => rfl
  | empty hempty =>
    cases h' with
    | beginning hne => exact absurd hempty hne
    | near hne => exact absurd hempty hne
    | far => rfl
    | empty => rfl

end Suggests

theorem suggests_suggest? (r : Registry) (text : String) :
    Suggests r.names text (r.suggest? text) := by
  have hbegins : (fun n : String => text.toList.isPrefixOf n.toList) =
      fun n => decide (text.toList <+: n.toList) := by
    funext n
    rw [Bool.eq_iff_iff, decide_eq_true_eq, List.isPrefixOf_iff_prefix]
  unfold suggest?
  rw [hbegins]
  split
  · rename_i hempty
    exact .empty (String.isEmpty_iff.1 hempty)
  rename_i hempty
  have hne : text ≠ "" := fun h => hempty (String.isEmpty_iff.2 h)
  split
  · rename_i name hfind
    exact .beginning hne (find?_eq_some_iff.1 hfind)
  rename_i hfind
  have hnot : ∀ n ∈ r.names, ¬ text.toList <+: n.toList := by
    simpa using List.find?_eq_none.1 hfind
  split
  · rename_i name distance hnearest
    obtain ⟨rfl, hfirst⟩ := isFirst_of_nearest? hnearest
    split
    · rename_i hreach
      exact .near hne hnot hfirst (le_reach_iff.1 hreach)
    · rename_i hreach
      refine .far hne hnot fun n hn hfew => hreach (le_reach_iff.2 ?_)
      exact hfew.of_le (hfirst.holds n hn)
  · rename_i hnearest
    refine .far hne hnot fun n hn => ?_
    rw [nearest?_eq_none_iff.1 hnearest] at hn
    cases hn

theorem suggest?_eq_iff {r : Registry} {s? : Option String} :
    r.suggest? text = s? ↔ Suggests r.names text s? :=
  ⟨fun h => h ▸ suggests_suggest? r text, fun h => (suggests_suggest? r text).unique h⟩

theorem exists_suggest?_of_edit {r : Registry} (hne : text ≠ "") (hname : name ∈ r.names)
    (h : Edit text.toList name.toList) : ∃ suggestion, r.suggest? text = some suggestion := by
  have hone : editDistance text name ≤ 1 := (isLeast_editDistance text name).2 (.single h)
  have hsuggests := suggests_suggest? r text
  cases hsuggestion : r.suggest? text with
  | some suggestion => exact ⟨suggestion, rfl⟩
  | none =>
    rw [hsuggestion] at hsuggests
    cases hsuggests with
    | far hne' hnot hfar => exact absurd (.inl hone) (hfar name hname)
    | empty hempty => exact absurd hempty hne

/-! ## Unknown commands -/

theorem lookup_eq_ok {r : Registry} {c : Command} (h : r.lookup text = .ok c) :
    c ∈ r.commands ∧ c.name = text := by
  unfold lookup at h
  split at h
  · rename_i found hfind
    cases h
    rw [find?_eq] at hfind
    have hname : (c.name == text) = true := by
      simpa using List.find?_some hfind
    exact ⟨List.mem_of_find?_eq_some hfind, eq_of_beq hname⟩
  · cases h

theorem lookup_eq_error_iff {r : Registry} :
    (∃ fault, r.lookup text = .error fault) ↔ text ∉ r.names := by
  constructor
  · rintro ⟨fault, hfault⟩ hmem
    obtain ⟨c, hc, rfl⟩ := List.mem_map.1 hmem
    unfold lookup at hfault
    split at hfault
    · cases hfault
    · rename_i hnone
      rw [find?_eq] at hnone
      exact absurd (beq_self_eq_true c.name) (List.find?_eq_none.1 hnone c hc)
  · exact fun h => ⟨_, lookup_of_notMem h⟩

/-- **Suggestions are the true nearest names.** The edit distance is the least number of edits that
make one text of the other, and so it is a metric. A name is looked up with success if and only if a
command bears it, and otherwise the fault has the suggestion: the first name that the text is the
beginning of, or else the first of those that are least edits away, if these are few, and nothing if
not. Every suggestion is the name of a command, and one edit never goes without. -/
theorem suggestions_exact :
    (∀ left right,
      IsLeast {n | Edits n left.toList right.toList} (editDistance left right) ∧
      editDistance left right = editDistance right left ∧
      (editDistance left right = 0 ↔ left = right) ∧
      ∀ middle, editDistance left right ≤ editDistance left middle + editDistance middle right) ∧
    ∀ (r : Registry) (text : String),
      (∀ c, r.lookup text = .ok c → c ∈ r.commands ∧ c.name = text) ∧
      ((∃ fault, r.lookup text = .error fault) ↔ text ∉ r.names) ∧
      (text ∉ r.names → r.lookup text = .error (.unknownCommand text (r.suggest? text))) ∧
      (∀ s?, r.suggest? text = s? ↔ Suggests r.names text s?) ∧
      (∀ name, r.suggest? text = some name → name ∈ r.names) ∧
      (text ≠ "" → ∀ name ∈ r.names, Edit text.toList name.toList →
        ∃ suggestion, r.suggest? text = some suggestion) := by
  refine ⟨fun left right => ⟨isLeast_editDistance left right, editDistance_comm left right,
      editDistance_eq_zero_iff, fun middle => editDistance_triangle left middle right⟩,
    fun r text => ⟨fun c => lookup_eq_ok, lookup_eq_error_iff, lookup_of_notMem,
      fun s? => suggest?_eq_iff, fun name h => (suggest?_eq_iff.1 h).mem, fun hne name hname =>
        exists_suggest?_of_edit hne hname⟩⟩

/-- A registry of two commands. -/
def pairedSample : Registry := (empty.push statusSample).push syncSample

/-- An insertion leads to the first of two commands, and the other is found by its name. -/
theorem suggestions_exact_status :
    "stats" ∉ pairedSample.names ∧
      lookup pairedSample "stats" =
        .error (.unknownCommand "stats" (some "status")) ∧
      Suggests ["status", "sync"] "stats" (some "status") ∧
      "status" ∈ pairedSample.names ∧
      (∃ suggestion, suggest? pairedSample "stats" = some suggestion) ∧
      syncSample ∈ [statusSample, syncSample] ∧
      editDistance "stats" "sync" = 4 ∧ ¬ Edits 3 "stats".toList "sync".toList := by
  obtain ⟨hdistances, hlookups⟩ := suggestions_exact
  obtain ⟨-, -, hunknown, hsuggests, hmem, hedit⟩ := hlookups pairedSample "stats"
  have hnot : "stats" ∉ pairedSample.names := by decide
  have hsuggestion : suggest? pairedSample "stats" = some "status" := by decide
  have hdistance : editDistance "stats" "sync" = 4 := by decide
  have hstatus := hmem "status" hsuggestion
  have hsync : lookup pairedSample "sync" = .ok syncSample := rfl
  refine ⟨hnot, (hunknown hnot).trans (by rw [hsuggestion]), (hsuggests _).1 hsuggestion, hstatus,
    hedit (by decide) "status" hstatus (.insert ['s', 't', 'a', 't'] ['s'] 'u'),
    ((hlookups _ "sync").1 syncSample hsync).1, hdistance, fun hedits => ?_⟩
  have hle := (hdistances "stats" "sync").1.2 hedits
  omega

end CommandLine.Registry
