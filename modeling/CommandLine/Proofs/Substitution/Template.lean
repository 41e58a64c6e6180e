import CommandLine.Expansion

/-!
# Templates

A template is a text with references, taken apart: literal runs, escapes, and references, whose
inline defaults are templates again. `Template.print` writes it down; the scanners of `Reference`
find in the written form what was written (`close?_body`, `cut_body`, `whole?_charsOfAll`).
-/

namespace CommandLine

namespace Template

/-- A literal run. -/
structure Literal where
  chars : List Char
  ne_nil : chars ≠ []
  plain : ∀ c ∈ chars, c ∉ ['$', '\\', '}']

/-- A name that a reference can have. -/
structure Name where
  text : String
  ne_empty : text ≠ ""
  trimmed : Text.trim text = text
  plain : ∀ c ∈ text.toList, c ∉ ['$', '{', '}', '\\', ':']

/-- A part of a template. -/
inductive Segment where
  | literal (run : Literal)
  /-- The opening of a reference, meant as it stands. -/
  | escape
  | reference (name : Name) (default? : Option (List Segment))

end Template

/-- Literal runs, escapes and references. -/
abbrev Template := List Template.Segment

namespace Template

/-! ## The written form -/

mutual

def Segment.chars : Segment → List Char
  | .literal run => run.chars
  | .escape => ['\\', '$', '{']
  | .reference name default? =>
    '$' :: '{' :: (name.text.toList ++ charsOfDefault default? ++ ['}'])

def charsOfDefault : Option (List Segment) → List Char
  | none => []
  | some default => ':' :: '-' :: charsOfAll default

def charsOfAll : List Segment → List Char
  | [] => []
  | s :: rest => s.chars ++ charsOfAll rest

end

/-- The written form of a template. -/
def print (t : Template) : String := String.ofList (charsOfAll t)

/-- The body of a written reference. -/
def body (name : Name) (default? : Option Template) : List Char :=
  name.text.toList ++ charsOfDefault default?

theorem chars_reference (name : Name) (default? : Option Template) :
    (Segment.reference name default?).chars = Reference.write (body name default?) := by
  simp [Segment.chars, Reference.write, body]

theorem Segment.chars_ne_nil (s : Segment) : s.chars ≠ [] := by
  cases s with
  | literal run => exact run.ne_nil
  | escape => simp [chars]
  | reference name default? => simp [chars]

/-! ## The closing brace -/

open Reference

theorem prepend_prepend (a b : List Char) (x : Option (List Char × List Char)) :
    prepend a (prepend b x) = prepend (a ++ b) x := by
  cases x <;> simp [prepend]

theorem prepend_nil (x : Option (List Char × List Char)) : prepend [] x = x := by
  cases x <;> simp [prepend]

theorem close?_cons {c : Char} (hc : c ∉ ['$', '\\', '}']) (depth : Nat) (s : List Char) :
    close? depth (c :: s) = prepend [c] (close? depth s) := by
  rw [close?] <;> simp_all

theorem close?_append_plain {run : List Char} (hrun : ∀ c ∈ run, c ∉ ['$', '\\', '}'])
    (depth : Nat) (s : List Char) :
    close? depth (run ++ s) = prepend run (close? depth s) := by
  induction run with
  | nil => rw [prepend_nil, List.nil_append]
  | cons c run ih =>
    rw [List.cons_append, close?_cons (hrun c (by simp)), ih fun c hc => hrun c (by simp [hc]),
      prepend_prepend]
    rfl

theorem close?_append_name (name : Name) (depth : Nat) (s : List Char) :
    close? depth (name.text.toList ++ s) = prepend name.text.toList (close? depth s) := by
  refine close?_append_plain (fun c hc => ?_) depth s
  have := name.plain c hc
  simp_all

mutual

theorem close?_chars (s : Segment) (depth : Nat) (rest : List Char) :
    close? depth (s.chars ++ rest) = prepend s.chars (close? depth rest) := by
  match s with
  | .literal run => exact close?_append_plain run.plain depth rest
  | .escape => rfl
  | .reference name default? =>
    simp only [Segment.chars, List.cons_append, List.append_assoc, List.nil_append]
    rw [close?, close?_append_name, close?_charsOfDefault default?, close?]
    simp [prepend_prepend]

theorem close?_charsOfDefault (default? : Option (List Segment)) (depth : Nat)
    (rest : List Char) :
    close? depth (charsOfDefault default? ++ rest)
      = prepend (charsOfDefault default?) (close? depth rest) := by
  match default? with
  | none => exact (prepend_nil _).symm
  | some default =>
    rw [charsOfDefault, List.cons_append, List.cons_append, close?_cons (by decide),
      close?_cons (by decide), close?_charsOfAll default, prepend_prepend, prepend_prepend]
    rfl

theorem close?_charsOfAll (t : List Segment) (depth : Nat) (rest : List Char) :
    close? depth (charsOfAll t ++ rest) = prepend (charsOfAll t) (close? depth rest) := by
  match t with
  | [] => exact (prepend_nil _).symm
  | s :: t =>
    rw [charsOfAll, List.append_assoc, close?_chars s, close?_charsOfAll t, prepend_prepend]

end

/-- The closing brace of a written reference is found. -/
theorem close?_body (name : Name) (default? : Option Template) (rest : List Char) :
    close? 0 (body name default? ++ '}' :: rest) = some (body name default?, rest) := by
  rw [body, List.append_assoc, close?_append_name, close?_charsOfDefault, close?]
  simp [prepend]

/-! ## The name and the inline default -/

theorem cut_cons {c : Char} (hc : c ∉ ['$', '{', '}', '\\', ':']) (s : List Char) :
    cut 0 (c :: s) = (cut 0 s).map (c :: ·) id := by
  rw [cut] <;> simp_all

theorem cut_append_plain {run : List Char} (hrun : ∀ c ∈ run, c ∉ ['$', '{', '}', '\\', ':'])
    (s : List Char) : cut 0 (run ++ s) = (cut 0 s).map (run ++ ·) id := by
  induction run with
  | nil => rfl
  | cons c run ih =>
    rw [List.cons_append, cut_cons (hrun c (by simp)), ih fun c hc => hrun c (by simp [hc])]
    rfl

theorem cut_body (name : Name) (default? : Option Template) :
    cut 0 (body name default?) = (name.text.toList, default?.map charsOfAll) := by
  rw [body, cut_append_plain name.plain]
  cases default? with
  | none => simp [charsOfDefault, cut]
  | some default => simp [charsOfDefault, cut]

theorem name_body (name : Name) (default? : Option Template) :
    Reference.name (body name default?) = name.text := by
  rw [Reference.name, cut_body]
  exact name.trimmed

theorem fallback?_body (name : Name) (default? : Option Template) :
    fallback? (body name default?) = default?.map charsOfAll := by
  rw [fallback?, cut_body]

/-! ## Whole references -/

theorem whole?_cons_of_ne {c : Char} (hc : c ≠ '$') (s : List Char) : whole? (c :: s) = none := by
  rw [whole?]
  intro rest h
  cases h
  exact hc rfl

theorem whole?_literal_append (run : Literal) (rest : List Char) :
    whole? (run.chars ++ rest) = none := by
  obtain ⟨c, cs, hrun⟩ := List.exists_cons_of_ne_nil run.ne_nil
  have hc : c ∉ ['$', '\\', '}'] := run.plain c (by simp [hrun])
  rw [hrun, List.cons_append, whole?_cons_of_ne (by simp_all)]

theorem whole?_reference_append (name : Name) (default? : Option Template) (rest : List Char) :
    whole? ((Segment.reference name default?).chars ++ rest) =
      match rest with
      | [] => some (body name default?)
      | _ => none := by
  have hclose := close?_body name default? rest
  rw [chars_reference, write]
  simp only [List.cons_append, List.append_assoc, List.nil_append]
  rw [whole?, hclose]
  cases rest <;> rfl

theorem whole?_charsOfAll (t : Template) :
    whole? (charsOfAll t) = match t with
      | [.reference name default?] => some (body name default?)
      | _ => none := by
  match t with
  | [] => rfl
  | .literal run :: rest => exact whole?_literal_append run _
  | .escape :: rest => exact whole?_cons_of_ne (by decide) _
  | [.reference name default?] => exact whole?_reference_append name default? []
  | .reference name default? :: s :: rest =>
    rw [charsOfAll, whole?_reference_append, charsOfAll]
    obtain ⟨c, cs, hs⟩ := List.exists_cons_of_ne_nil s.chars_ne_nil
    rw [hs]
    rfl

end Template

end CommandLine
