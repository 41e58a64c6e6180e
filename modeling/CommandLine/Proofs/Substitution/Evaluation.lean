import CommandLine.Proofs.Substitution.Template

/-!
# Evaluation of templates

`Template.evaluate` gives a template its meaning segment by segment, without a look at how it is
written. `substitute_print`: if all stored texts are written templates, then the substitution in a
written template gives what the template evaluates to, be it a text, nothing, or a cycle.
-/

namespace CommandLine

namespace Template

/-! ## Values -/

/-- Puts the texts of the segments together; a segment without a text stands as it is written. -/
def concat (t : Template) (texts : List (Option (List Char))) : List Char :=
  (t.zipWith (fun s text? => text?.getD s.chars) texts).flatten

/-- The text of a template whose segments have the given texts. A template that is one reference
without a text has none. -/
def join (t : Template) (texts : List (Option (List Char))) : Option (List Char) :=
  if texts = [none] then none else some (concat t texts)

section Value

variable (stored : String → Except Fault (Option (List Char)))

mutual

/-- The text of a segment, given those of the names. -/
def Segment.value : Segment → Except Fault (Option (List Char))
  | .literal run => .ok (some run.chars)
  | .escape => .ok (some ['$', '{'])
  | .reference name default? =>
    match stored name.text with
    | .error fault => .error fault
    | .ok (some text) => .ok (some text)
    | .ok none => valueOfDefault default?

def valueOfDefault : Option (List Segment) → Except Fault (Option (List Char))
  | none => .ok none
  | some default => (values default).map (join default)

/-- The texts of all segments, or the first fault. -/
def values : List Segment → Except Fault (List (Option (List Char)))
  | [] => .ok []
  | s :: rest =>
    match s.value with
    | .error fault => .error fault
    | .ok text? => (values rest).map (text? :: ·)

end

/-- The text of a template, given those of the names. -/
def evaluate (t : Template) : Except Fault (Option (List Char)) :=
  (values stored t).map (join t)

end Value

end Template

/-- Templates whose written forms are the texts that a resolver has stored for the names. -/
structure Resolver.Templates (r : Resolver) where
  template : String → Template
  eq_print : ∀ name text, r.lookup name = some text → text = (template name).print

namespace Resolver.Templates

variable {r : Resolver}

/-- What a name stands for: its template, evaluated while the name is in progress. -/
def stored (templates : r.Templates) (inProgress : List String) (name : String) :
    Except Fault (Option (List Char)) :=
  if _hname : name ∈ inProgress then
    .error (.cyclicSubstitution (inProgress.dropWhile (· ≠ name) ++ [name]))
  else
    match _hfound : r.lookup name with
    | none => .ok none
    | some _ =>
      Template.evaluate (templates.stored (inProgress ++ [name])) (templates.template name)
termination_by (r.idleNames inProgress).length
decreasing_by exact idleNames_length_lt _hname (mem_names_of_lookup _hfound)

theorem nonempty_iff : Nonempty r.Templates ↔
    ∀ name text, r.lookup name = some text → ∃ t : Template, text = t.print := by
  constructor
  · rintro ⟨templates⟩ name text h
    exact ⟨_, templates.eq_print name text h⟩
  · intro h
    have hname : ∀ name, ∃ t : Template, ∀ text, r.lookup name = some text → text = t.print := by
      intro name
      cases hlookup : r.lookup name with
      | none => exact ⟨[], fun text htext => by cases htext⟩
      | some text =>
        obtain ⟨t, rfl⟩ := h name text hlookup
        exact ⟨t, fun text htext => (Option.some.inj htext).symm⟩
    obtain ⟨template, htemplate⟩ := Classical.axiomOfChoice hname
    exact ⟨⟨template, htemplate⟩⟩

theorem stored_of_mem (templates : r.Templates) {inProgress : List String} {name : String}
    (h : name ∈ inProgress) : templates.stored inProgress name =
      .error (.cyclicSubstitution (inProgress.dropWhile (· ≠ name) ++ [name])) := by
  rw [stored, dif_pos h]

theorem stored_of_lookup (templates : r.Templates) {inProgress : List String} {name : String}
    (h : name ∉ inProgress) : templates.stored inProgress name =
      match r.lookup name with
      | none => .ok none
      | some _ =>
        Template.evaluate (templates.stored (inProgress ++ [name])) (templates.template name) := by
  rw [stored, dif_neg h]
  split <;> simp_all

end Resolver.Templates

/-! ## Expansion follows evaluation -/

namespace Template

variable {r : Resolver} {inProgress : List String}
  {stored : String → Except Fault (Option (List Char))}

theorem expandPieces_append_plain {run : List Char} (hrun : ∀ c ∈ run, c ∉ ['$', '\\', '}'])
    (rest : List Char) :
    r.expandPieces inProgress (run ++ rest) = (r.expandPieces inProgress rest).map (run ++ ·) := by
  induction run with
  | nil => cases h : r.expandPieces inProgress rest <;> simp [h, Except.map]
  | cons c run ih =>
    have hc := hrun c (by simp)
    rw [List.cons_append, Resolver.expandPieces_cons (by simp_all) (by simp_all),
      ih fun c hc => hrun c (by simp [hc])]
    cases r.expandPieces inProgress rest <;> rfl

theorem expandPieces_chars_append {s : Segment}
    (hreference : ∀ name default?, s = .reference name default? →
      r.resolve inProgress (body name default?) = s.value stored) (rest : List Char) :
    r.expandPieces inProgress (s.chars ++ rest) = (s.value stored).bind fun text? =>
      (r.expandPieces inProgress rest).map (text?.getD s.chars ++ ·) := by
  cases s with
  | literal run => exact expandPieces_append_plain run.plain rest
  | escape => exact Resolver.expandPieces_escape ..
  | reference name default? =>
    rw [← hreference name default? rfl, chars_reference]
    have hclose := close?_body name default? rest
    simp only [Reference.write, List.cons_append, List.append_assoc, List.nil_append]
    rw [Resolver.expandPieces_reference hclose]
    rfl

theorem values_cons_eq_ok_iff {s : Segment} {t : Template} {texts : List (Option (List Char))} :
    values stored (s :: t) = .ok texts ↔
      ∃ text? rest, s.value stored = .ok text? ∧ values stored t = .ok rest ∧
        texts = text? :: rest := by
  rw [values]
  rcases s.value stored with fault | text?
  · simp
  · rcases values stored t with fault | rest <;> simp [Except.map, eq_comm]

theorem length_of_values {t : Template} {texts : List (Option (List Char))}
    (h : values stored t = .ok texts) : texts.length = t.length := by
  induction t generalizing texts with
  | nil =>
    cases h
    rfl
  | cons s t ih =>
    obtain ⟨text?, rest, -, hrest, rfl⟩ := values_cons_eq_ok_iff.1 h
    simp [ih hrest]

/-- Only a template that is one reference can have no text. -/
theorem exists_reference_of_values {t : Template} (h : values stored t = .ok [none]) :
    ∃ name default?, t = [.reference name default?] := by
  obtain ⟨s, rfl⟩ := List.length_eq_one_iff.1 (length_of_values h).symm
  obtain ⟨text?, rest, hs, -, htext⟩ := values_cons_eq_ok_iff.1 h
  obtain ⟨rfl, -⟩ := List.cons.inj htext
  cases s with
  | literal run => cases hs
  | escape => cases hs
  | reference name default? => exact ⟨name, default?, rfl⟩

theorem evaluate_singleton (s : Segment) : evaluate stored [s] = s.value stored := by
  simp only [evaluate, values]
  rcases s.value stored with fault | _ | text
  · rfl
  · rfl
  · simp [Except.map, join, concat]

theorem evaluate_of_pieces {t : Template} (ht : ¬∃ name default?, t = [.reference name default?]) :
    evaluate stored t = ((values stored t).map (concat t)).map some := by
  rw [evaluate]
  cases h : values stored t with
  | error fault => rfl
  | ok texts =>
    have htexts : texts ≠ [none] := fun htexts => ht (exists_reference_of_values (htexts ▸ h))
    exact congrArg Except.ok (if_neg htexts)

theorem expand_of_pieces {t : Template}
    (hpieces : r.expandPieces inProgress (charsOfAll t) = (values stored t).map (concat t))
    (hreference : ∀ name default?, t = [.reference name default?] →
      r.resolve inProgress (body name default?) = (Segment.reference name default?).value stored) :
    r.expand inProgress (charsOfAll t) = evaluate stored t := by
  by_cases ht : ∃ name default?, t = [.reference name default?]
  · obtain ⟨name, default?, rfl⟩ := ht
    rw [Resolver.expand_eq, whole?_charsOfAll, evaluate_singleton]
    exact hreference name default? rfl
  · have hwhole : Reference.whole? (charsOfAll t) = none := by
      rw [whole?_charsOfAll]
      split
      · exact absurd ⟨_, _, rfl⟩ ht
      · rfl
    rw [Resolver.expand_eq, hwhole, evaluate_of_pieces ht, ← hpieces]

mutual

theorem resolve_body (hstored : ∀ name, r.deref inProgress name = stored name) (name : Name)
    (default? : Option (List Segment)) :
    r.resolve inProgress (body name default?) = (Segment.reference name default?).value stored := by
  rw [Resolver.resolve_eq_deref, name_body, fallback?_body, hstored, Segment.value]
  match default? with
  | none => rcases stored name.text with fault | _ | text <;> rfl
  | some default =>
    have ih := (expand_charsOfAll hstored default).2
    rcases stored name.text with fault | _ | text
    · rfl
    · exact ih
    · rfl

/-- If the names stand for what they are taken to stand for, a written template is expanded to what
it evaluates to. -/
theorem expand_charsOfAll (hstored : ∀ name, r.deref inProgress name = stored name)
    (t : List Segment) :
    r.expandPieces inProgress (charsOfAll t) = (values stored t).map (concat t) ∧
      r.expand inProgress (charsOfAll t) = evaluate stored t := by
  match t with
  | [] =>
    have hpieces : r.expandPieces inProgress (charsOfAll []) = (values stored []).map (concat []) :=
      Resolver.expandPieces_nil ..
    exact ⟨hpieces, expand_of_pieces hpieces fun name default? h => nomatch h⟩
  | s :: rest =>
    have hreference : ∀ name default?, s = .reference name default? →
        r.resolve inProgress (body name default?) = s.value stored := by
      intro name default? h
      subst h
      exact resolve_body hstored name default?
    have hpieces : r.expandPieces inProgress (charsOfAll (s :: rest))
        = (values stored (s :: rest)).map (concat (s :: rest)) := by
      rw [charsOfAll, expandPieces_chars_append hreference, (expand_charsOfAll hstored rest).1,
        values]
      rcases s.value stored with fault | text?
      · rfl
      · rcases values stored rest with fault | texts <;> rfl
    refine ⟨hpieces, expand_of_pieces hpieces fun name default? h => ?_⟩
    obtain ⟨rfl, -⟩ := List.cons.inj h
    exact hreference name default? rfl

end

end Template

namespace Resolver

open Template

/-! ## The substitution -/

theorem charsOfAll_template {r : Resolver} (templates : r.Templates) {name text : String}
    (h : r.lookup name = some text) :
    text.toList = Template.charsOfAll (templates.template name) := by
  rw [templates.eq_print name text h]
  exact String.toList_ofList

/-- A name stands for its template, whichever names are in progress. -/
theorem deref_eq_stored {r : Resolver} (templates : r.Templates) (inProgress : List String)
    (name : String) : r.deref inProgress name = templates.stored inProgress name := by
  induction h : (r.idleNames inProgress).length using Nat.strongRecOn
    generalizing inProgress name with
  | ind idle ih =>
    by_cases hname : name ∈ inProgress
    · rw [templates.stored_of_mem hname, deref, if_pos hname]
    · rw [templates.stored_of_lookup hname, deref, if_neg hname]
      cases hlookup : r.lookup name with
      | none => rfl
      | some text =>
        -- one name fewer is idle while the template of this one is expanded
        have hidle := idleNames_length_lt hname (mem_names_of_lookup hlookup)
        have hstored : ∀ name', r.deref (inProgress ++ [name]) name'
            = templates.stored (inProgress ++ [name]) name' :=
          fun name' => ih _ (h ▸ hidle) _ _ rfl
        show r.expand (inProgress ++ [name]) text.toList = _
        rw [charsOfAll_template templates hlookup]
        exact (Template.expand_charsOfAll hstored _).2

/-- **Substitution is evaluation.** If all stored texts are written templates, the substitution in
a written template gives the text, the absence of one or the cycle that the template evaluates
to. -/
theorem substitute_print {r : Resolver} (templates : r.Templates) (t : Template) :
    r.substitute t.print
      = (Template.evaluate (templates.stored []) t).map (·.map String.ofList) := by
  have hexpand := (Template.expand_charsOfAll (deref_eq_stored templates []) t).2
  rw [substitute, Template.print, String.toList_ofList, hexpand]

/-- One stored text, with a reference that has a default. -/
def greetingSample : Resolver where
  contexts := []
  defaults := .ofTable ((∅ : Table String).insert "greeting" "hello ${who:-world}")

theorem lookup_greetingSample (name : String) : greetingSample.lookup name =
    if name = "greeting" then some "hello ${who:-world}" else none := by
  simp [lookup, greetingSample, scoped?, Std.TreeMap.getElem?_insert, eq_comm (a := name)]

def greetingTemplates : greetingSample.Templates where
  template _ :=
    [.literal ⟨"hello ".toList, by decide, by simp⟩,
      .reference ⟨"who", by decide, by decide, by simp⟩
        (some [.literal ⟨"world".toList, by decide, by simp⟩])]
  eq_print name text h := by
    rw [lookup_greetingSample] at h
    split at h
    · cases h
      decide
    · cases h

/-- A stored text falls back on its own default, and a reference that stands for nothing stays. -/
theorem substitute_print_greeting :
    greetingSample.substitute "<${greeting}> ${name}" = .ok (some "<hello world> ${name}") := by
  have h := substitute_print greetingTemplates
    [.literal ⟨['<'], by decide, by simp⟩,
      .reference ⟨"greeting", by decide, by decide, by simp⟩ none,
      .literal ⟨['>', ' '], by decide, by simp⟩,
      .reference ⟨"name", by decide, by decide, by simp⟩ none]
  have hwho : greetingTemplates.stored ["greeting"] "who" = .ok none := by
    rw [Templates.stored_of_lookup _ (by decide), lookup_greetingSample]
    rfl
  have hname : greetingTemplates.stored [] "name" = .ok none := by
    rw [Templates.stored_of_lookup _ (by decide), lookup_greetingSample]
    rfl
  have hgreeting : greetingTemplates.stored [] "greeting" = .ok (some "hello world".toList) := by
    rw [Templates.stored_of_lookup _ (by decide), lookup_greetingSample, if_pos rfl]
    show evaluate (greetingTemplates.stored ["greeting"]) _ = _
    simp only [evaluate, greetingTemplates, values, Segment.value]
    rw [← greetingTemplates, hwho]
    rfl
  refine h.trans ?_
  simp only [evaluate, values, Segment.value, hgreeting, hname]
  rfl

end Resolver

end CommandLine
