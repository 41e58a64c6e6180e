import CommandLine.Proofs.Substitution.Template

/-!
# Texts without references

A text in which no reference is opened is expanded to itself. `substitute_withDefault`: a reference
to a name, with such a text as its inline default, gives the text stored for the name, or else the
default, if no reference is opened in the stored text either.
-/

namespace CommandLine

namespace Reference

/-- The opening of a reference stands somewhere in the text, escaped or not. -/
def Opens (s : List Char) : Prop := ['$', '{'] <:+: s

instance (s : List Char) : Decidable (Opens s) := inferInstanceAs (Decidable (_ <:+: _))

variable {c : Char} {s : List Char}

theorem not_opens_cons (h : ¬ Opens (c :: s)) : (∀ t, c :: s ≠ '$' :: '{' :: t) ∧ ¬ Opens s := by
  refine ⟨?_, fun hs => h (hs.trans (List.suffix_cons c s).isInfix)⟩
  intro t heq
  exact h ⟨[], t, heq.symm⟩

theorem not_escape_of_not_opens (h : ¬ Opens (c :: s)) (t : List Char) :
    c :: s ≠ '\\' :: '$' :: '{' :: t := by
  intro heq
  exact h ⟨['\\'], t, heq.symm⟩

theorem not_opens_append_brace (h : ¬ Opens s) (after t : List Char) :
    s ++ '}' :: after ≠ '$' :: '{' :: t := by
  intro heq
  match s with
  | [] => simp at heq
  | [c] => simp at heq
  | c :: d :: rest =>
    obtain ⟨rfl, rfl, -⟩ : c = '$' ∧ d = '{' ∧ rest ++ '}' :: after = t := by simpa using heq
    exact h ⟨[], rest, rfl⟩

theorem close?_of_not_opens (hopens : ¬ Opens s) (hbrace : '}' ∉ s) (after : List Char) :
    close? 0 (s ++ '}' :: after) = some (s, after) := by
  induction s with
  | nil => rfl
  | cons c s ih =>
    obtain ⟨hc, hs⟩ : '}' ≠ c ∧ '}' ∉ s := by simpa using hbrace
    obtain ⟨-, hrest⟩ := not_opens_cons hopens
    have hstep : close? 0 (c :: (s ++ '}' :: after)) =
        prepend [c] (close? 0 (s ++ '}' :: after)) := by
      rw [close?]
      · rintro t rfl heq
        exact not_opens_append_brace hrest after t heq
      · rintro t rfl heq
        exact not_opens_append_brace hopens after t (congrArg ('$' :: ·) heq)
      · exact fun _ h => hc h.symm
      · nofun
    rw [List.cons_append, hstep, ih hrest hs]
    rfl

theorem whole?_of_not_opens (h : ¬ Opens s) : whole? s = none := by
  unfold whole?
  split
  · exact absurd ⟨[], _, rfl⟩ h
  · rfl

end Reference

namespace Resolver

open Reference Template

variable {r : Resolver} {inProgress : List String}

theorem expandPieces_of_not_opens {s : List Char} (h : ¬ Opens s) :
    r.expandPieces inProgress s = .ok s := by
  induction s with
  | nil => exact expandPieces_nil ..
  | cons c s ih =>
    obtain ⟨hfront, hrest⟩ := not_opens_cons h
    rw [expandPieces_cons hfront (not_escape_of_not_opens h), ih hrest]
    rfl

/-- Nothing is to be expanded. -/
theorem expand_of_not_opens {s : List Char} (h : ¬ Opens s) :
    r.expand inProgress s = .ok (some s) := by
  rw [expand_eq, whole?_of_not_opens h]
  simp only [expandPieces_of_not_opens h, Except.map]

/-- A name with an inline default in which no reference is opened or closed. -/
theorem substitute_withDefault (name : Template.Name) {inline : String}
    (hopens : ¬ Opens inline.toList) (hbrace : '}' ∉ inline.toList)
    (hstored : ∀ text, r.lookup name.text = some text → ¬ Opens text.toList) :
    r.substitute ("$\x7b" ++ name.text ++ ":-" ++ inline ++ "\x7d") =
      .ok (some ((r.lookup name.text).getD inline)) := by
  let body := name.text.toList ++ ':' :: '-' :: inline.toList
  have hclose : close? 0 (body ++ ['}']) = some (body, []) := by
    simp only [body, List.append_assoc, List.cons_append]
    rw [close?_append_name, close?_cons (by decide), close?_cons (by decide),
      close?_of_not_opens hopens hbrace]
    simp [prepend]
  have hcut : cut 0 body = (name.text.toList, some inline.toList) := by
    rw [cut_append_plain name.plain]
    simp [cut]
  have hname : Reference.name body = name.text := by
    rw [Reference.name, hcut]
    exact name.trimmed
  have hfallback : fallback? body = some inline.toList := congrArg Prod.snd hcut
  have hchars : ("$\x7b" ++ name.text ++ ":-" ++ inline ++ "\x7d").toList =
      '$' :: '{' :: (body ++ ['}']) := by
    simp [body]
  have hwhole : whole? ('$' :: '{' :: (body ++ ['}'])) = some body := by
    rw [whole?, hclose]
  rw [substitute, hchars, expand_eq, hwhole]
  simp only
  rw [resolve_eq, hname, if_neg List.not_mem_nil, hfallback]
  cases hlookup : r.lookup name.text with
  | none => simp [Except.bind, Except.map, expand_of_not_opens hopens]
  | some text => simp [Except.bind, Except.map, expand_of_not_opens (hstored text hlookup)]

end Resolver

end CommandLine
