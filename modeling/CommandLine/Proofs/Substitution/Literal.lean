import CommandLine.Binding
import CommandLine.Proofs.Resolver.Sources

/-!
# Literal texts

`Reference.escaped` puts a backslash in front of every opening of a reference. Nothing is left that
opens one, and the scan meets each of these backslashes where an escape begins, also when the text
has backslashes of its own there (`scan_escape`). So every text can be written as one that stands
for it, whatever any name stands for, be it in a table or not (`substitute_escaped`).
-/

namespace CommandLine

namespace Reference

/-- The characters with a backslash in front of every opening of a reference. -/
def escape : List Char → List Char
  | [] => []
  | '$' :: '{' :: rest => '\\' :: '$' :: '{' :: escape rest
  | c :: rest => c :: escape rest

/-- The text with a backslash in front of every opening of a reference. -/
def escaped (text : String) : String := String.ofList (escape text.toList)

theorem escape_cons {c : Char} {rest : List Char} (h : ∀ s, c :: rest ≠ '$' :: '{' :: s) :
    escape (c :: rest) = c :: escape rest := by
  rw [escape]
  rintro s rfl rfl
  exact h s rfl

theorem exists_brace_of_escape {s t : List Char} (h : escape s = '{' :: t) :
    ∃ rest, s = '{' :: rest := by
  unfold escape at h
  split at h
  · cases h
  · cases h
  · rename_i c rest _
    obtain ⟨rfl, -⟩ := List.cons.inj h
    exact ⟨rest, rfl⟩

theorem cons_escape_ne_opening {c : Char} {rest : List Char}
    (h : ∀ s, c :: rest ≠ '$' :: '{' :: s) (t : List Char) :
    c :: escape rest ≠ '$' :: '{' :: t := by
  intro heq
  obtain ⟨rfl, hbrace⟩ := List.cons.inj heq
  obtain ⟨s, rfl⟩ := exists_brace_of_escape hbrace
  exact h s rfl

theorem escape_ne_opening (s t : List Char) : escape s ≠ '$' :: '{' :: t := by
  intro h
  cases s with
  | nil => cases h
  | cons c rest =>
    by_cases hopens : ∃ s, c :: rest = '$' :: '{' :: s
    · obtain ⟨s, hs⟩ := hopens
      rw [hs, escape] at h
      cases h
    · have hcons : ∀ s, c :: rest ≠ '$' :: '{' :: s := not_exists.1 hopens
      rw [escape_cons hcons] at h
      exact cons_escape_ne_opening hcons t h

theorem whole?_escape (s : List Char) : whole? (escape s) = none := by
  unfold whole?
  split
  · rename_i rest heq
    exact absurd heq (escape_ne_opening s rest)
  · rfl

end Reference

namespace Expansion

open Reference

/-- The scan of an escaped text puts together the text. -/
theorem scan_escape (lookup : Answers) (out s : List Char) (frames : List Frame) :
    ∃ n, (stepWith lookup)^[n] ⟨.pieces out (escape s), frames⟩ =
      ⟨.outcome (.ok (some (out ++ s))), frames⟩ := by
  induction s using escape.induct generalizing out with
  | case1 =>
    refine ⟨1, ?_⟩
    rw [List.append_nil]
    rfl
  | case2 rest ih =>
    obtain ⟨n, hn⟩ := ih (out ++ ['$', '{'])
    have hstep : stepWith lookup ⟨.pieces out (escape ('$' :: '{' :: rest)), frames⟩ =
        ⟨.pieces (out ++ ['$', '{']) (escape rest), frames⟩ := rfl
    refine ⟨n + 1, ?_⟩
    rw [Function.iterate_succ_apply, hstep, hn, List.append_assoc]
    rfl
  | case3 c rest hother ih =>
    have hcons : ∀ s, c :: rest ≠ '$' :: '{' :: s := by
      rintro s ⟨⟩
      exact hother s rfl rfl
    -- a backslash of the text itself is followed by one that was put there, not by an opening
    have hescape : ∀ s, c :: escape rest ≠ '\\' :: '$' :: '{' :: s := by
      intro s heq
      exact escape_ne_opening rest s (List.cons.inj heq).2
    have hstep : stepWith lookup ⟨.pieces out (escape (c :: rest)), frames⟩ =
        ⟨.pieces (out ++ [c]) (escape rest), frames⟩ := by
      rw [escape_cons hcons]
      exact scan_cons (cons_escape_ne_opening hcons) hescape out frames
    obtain ⟨n, hn⟩ := ih (out ++ [c])
    refine ⟨n + 1, ?_⟩
    rw [Function.iterate_succ_apply, hstep, hn, List.append_assoc]
    rfl

theorem endsWith_escaped (lookup : Answers) (text : String) :
    EndsWith lookup (escaped text) (.ok (some text.toList)) := by
  have hstart : stepWith lookup (.start (escaped text)) =
      ⟨.pieces [] (escape text.toList), []⟩ := by
    unfold stepWith Moment.start step escaped
    dsimp only
    rw [String.toList_ofList, whole?_escape]
  obtain ⟨n, hn⟩ := scan_escape lookup [] text.toList []
  refine ⟨n + 1, ?_⟩
  rw [Function.iterate_succ_apply, hstart, hn]
  rfl

end Expansion

namespace Resolver

open Expansion (EndsWith endsWith_escaped)
open Reference (escaped)

/-- **Literal texts.** With its openings escaped every text stands for itself, whatever is
installed; as a default it is converted like the text itself. Nor does it matter what any name
stands for, be it in a table or not. -/
theorem substitute_escaped (text : String) :
    (∀ r : Resolver, r.substitute (escaped text) = .ok (some text)) ∧
      (∀ (b : Binder) (a : Attributes) (type : ValueType) (label : String),
        b.fallback { a with default? := some (escaped text) } type label =
          (b.convert (.text text) type label).map some) ∧
      ∀ (lookup : Answers) (outcome : Except Fault (Option (List Char))),
        EndsWith lookup (escaped text) outcome ↔ outcome = .ok (some text.toList) := by
  have hsubstitute : ∀ r : Resolver, r.substitute (escaped text) = .ok (some text) := by
    intro r
    rw [substitute_of_endsWith (endsWith_escaped r.lookup text)]
    simp only [Except.map, Option.map, String.ofList_toList]
  refine ⟨hsubstitute, fun b a type label => ?_, fun lookup outcome => ⟨fun h => ?_, ?_⟩⟩
  · unfold Binder.fallback
    simp only [hsubstitute, Bind.bind, Except.bind]
    rfl
  · exact h.unique (endsWith_escaped lookup text)
  · rintro rfl
    exact endsWith_escaped lookup text

end Resolver

end CommandLine
