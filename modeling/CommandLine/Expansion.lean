import CommandLine.Fault
import CommandLine.Reference
import CommandLine.Resolver

/-!
Expansion of the references in a text. A reference stands for the text stored for its name, itself
expanded, else for its inline default, expanded. A text that is one reference with neither has no
expansion; inside a longer text such a reference stays as it is written. A name that comes up while
its own stored text is being expanded is a cycle.

The expansion ends: each stored text belongs to one more name in progress, and only the names of
the resolver's tables have stored texts.
-/

namespace CommandLine.Resolver

/-- The names that may still come into progress. -/
def idleNames (r : Resolver) (inProgress : List String) : List String :=
  r.names.filter (· ∉ inProgress)

theorem idleNames_length_lt {r : Resolver} {inProgress : List String} {name : String}
    (hname : name ∉ inProgress) (h : name ∈ r.names) :
    (r.idleNames (inProgress ++ [name])).length < (r.idleNames inProgress).length := by
  have hmem : name ∈ r.idleNames inProgress := by
    simp [idleNames, h, hname]
  have hsub : r.idleNames (inProgress ++ [name]) = (r.idleNames inProgress).filter (· ≠ name) := by
    simp only [idleNames, List.filter_filter]
    congr 1
    funext x
    by_cases hx : x = name <;> simp [hx]
  rw [hsub]
  refine Nat.lt_of_le_of_ne (List.length_filter_le _ _) fun heq => ?_
  have := List.length_filter_eq_length_iff.1 heq name hmem
  simp at this

mutual

/-- Expands a text, given the names whose stored texts are being expanded, the outermost first. -/
def expand (r : Resolver) (inProgress : List String) (text : List Char) :
    Except Fault (Option (List Char)) :=
  match (Reference.whole? text).attach with
  | some ⟨body, _⟩ => r.resolve inProgress body
  | none => (r.expandPieces inProgress text).map some
termination_by ((r.idleNames inProgress).length, text.length, 1)
decreasing_by
  · have := congrArg List.length (Reference.eq_write_of_whole? ‹_›)
    simp [Reference.write] at this
    exact .right _ (.left _ _ (by omega))
  · exact .right _ (.right _ (by omega))

/-- Expands the references inside a text and leaves all else as it is. -/
def expandPieces (r : Resolver) (inProgress : List String) :
    List Char → Except Fault (List Char)
  | [] => .ok []
  | '\\' :: '$' :: '{' :: rest => (r.expandPieces inProgress rest).map (['$', '{'] ++ ·)
  | '$' :: '{' :: rest =>
    match (Reference.close? 0 rest).attach with
    | none => .ok ('$' :: '{' :: rest)
    | some ⟨(body, after), _⟩ =>
      (r.resolve inProgress body).bind fun value? =>
        (r.expandPieces inProgress after).map (value?.getD (Reference.write body) ++ ·)
  | c :: rest => (r.expandPieces inProgress rest).map (c :: ·)
termination_by text => ((r.idleNames inProgress).length, text.length, 0)
decreasing_by
  all_goals try have := Reference.length_of_close? ‹_›
  all_goals exact .right _ (.left _ _ (by simp; try omega))

/-- The expansion of the reference with the given body. -/
def resolve (r : Resolver) (inProgress : List String) (body : List Char) :
    Except Fault (Option (List Char)) :=
  let name := Reference.name body
  if _h : name ∈ inProgress then
    .error (.cyclicSubstitution (inProgress.dropWhile (· ≠ name) ++ [name]))
  else
    (match r.stored? name with
      | some ⟨stored, _⟩ => r.expand (inProgress ++ [name]) stored.toList
      | none => .ok none).bind fun
      | some value => .ok (some value)
      | none =>
        match (Reference.fallback? body).attach with
        | some ⟨fallback, _⟩ => r.expand inProgress fallback
        | none => .ok none
termination_by ((r.idleNames inProgress).length, body.length, 2)
decreasing_by
  · exact .left _ _ (idleNames_length_lt _h ‹_›)
  · exact .right _ (.left _ _ (Reference.length_of_fallback? ‹_›))

end

/-- Expands every reference in a text. -/
def substitute (r : Resolver) (text : String) : Except Fault (Option String) :=
  (r.expand [] text.toList).map (·.map String.ofList)

/-! ## Equations -/

theorem expand_eq (r : Resolver) (inProgress : List String) (text : List Char) :
    r.expand inProgress text = match Reference.whole? text with
      | some body => r.resolve inProgress body
      | none => (r.expandPieces inProgress text).map some := by
  rw [expand]
  split
  · rename_i body hbody _
    rw [hbody]
  · rename_i h
    rw [Option.attach_eq_none_iff.1 h]

@[simp] theorem expandPieces_nil (r : Resolver) (inProgress : List String) :
    r.expandPieces inProgress [] = .ok [] := by
  rw [expandPieces]

theorem expandPieces_escape (r : Resolver) (inProgress : List String) (rest : List Char) :
    r.expandPieces inProgress ('\\' :: '$' :: '{' :: rest)
      = (r.expandPieces inProgress rest).map (['$', '{'] ++ ·) := by
  rw [expandPieces]

theorem expandPieces_unclosed {rest : List Char} (h : Reference.close? 0 rest = none)
    (r : Resolver) (inProgress : List String) :
    r.expandPieces inProgress ('$' :: '{' :: rest) = .ok ('$' :: '{' :: rest) := by
  rw [expandPieces, Option.attach_eq_none_iff.2 h]

theorem expandPieces_reference {rest body after : List Char}
    (h : Reference.close? 0 rest = some (body, after)) (r : Resolver) (inProgress : List String) :
    r.expandPieces inProgress ('$' :: '{' :: rest)
      = (r.resolve inProgress body).bind fun value? =>
        (r.expandPieces inProgress after).map (value?.getD (Reference.write body) ++ ·) := by
  rw [expandPieces, (Option.attach_eq_some_iff (x := ⟨(body, after), h⟩)).2 h]

theorem expandPieces_cons {c : Char} {rest : List Char}
    (hreference : ∀ s, c :: rest ≠ '$' :: '{' :: s)
    (hescape : ∀ s, c :: rest ≠ '\\' :: '$' :: '{' :: s)
    (r : Resolver) (inProgress : List String) :
    r.expandPieces inProgress (c :: rest)
      = (r.expandPieces inProgress rest).map (c :: ·) := by
  rw [expandPieces]
  · rintro s rfl rfl
    exact hescape s rfl
  · rintro s rfl rfl
    exact hreference s rfl

theorem resolve_eq (r : Resolver) (inProgress : List String) (body : List Char) :
    r.resolve inProgress body =
      if Reference.name body ∈ inProgress then
        .error (.cyclicSubstitution
          (inProgress.dropWhile (· ≠ Reference.name body) ++ [Reference.name body]))
      else
        (match r.lookup (Reference.name body) with
          | some stored => r.expand (inProgress ++ [Reference.name body]) stored.toList
          | none => .ok none).bind fun
          | some value => .ok (some value)
          | none =>
            match Reference.fallback? body with
            | some fallback => r.expand inProgress fallback
            | none => .ok none := by
  rw [resolve, ← map_stored?]
  split
  · rfl
  · congr 1
    · cases r.stored? (Reference.name body) <;> rfl
    · funext value?
      cases value? with
      | some value => rfl
      | none =>
        simp only
        split
        · rename_i fallback hfallback _
          rw [hfallback]
        · rename_i h
          rw [Option.attach_eq_none_iff.1 h]

/-- What a name stands for: the text stored for it, expanded while the name is in progress. -/
def deref (r : Resolver) (inProgress : List String) (name : String) :
    Except Fault (Option (List Char)) :=
  if name ∈ inProgress then
    .error (.cyclicSubstitution (inProgress.dropWhile (· ≠ name) ++ [name]))
  else match r.lookup name with
    | some stored => r.expand (inProgress ++ [name]) stored.toList
    | none => .ok none

/-- A reference stands for what its name stands for, or else for its inline default. -/
theorem resolve_eq_deref (r : Resolver) (inProgress : List String) (body : List Char) :
    r.resolve inProgress body = (r.deref inProgress (Reference.name body)).bind fun
      | some value => .ok (some value)
      | none =>
        match Reference.fallback? body with
        | some fallback => r.expand inProgress fallback
        | none => .ok none := by
  rw [resolve_eq, deref]
  split
  · rfl
  · rfl

end CommandLine.Resolver
