import CommandLine.Text.Blank

/-!
References in a text. A reference is written `$`, then a body in braces; the body is a name, and
after the first `:-` outside of nested references an inline default. A backslash before the opening
keeps it from opening anything.
-/

namespace CommandLine.Reference

/-- A body whose end has been found, and what follows its closing brace, with some text put in
front of the body. -/
def prepend (front : List Char) :
    Option (List Char × List Char) → Option (List Char × List Char) :=
  Option.map fun (body, after) => (front ++ body, after)

/-- The body up to the closing brace, and what follows that brace. Within the body `depth` nested
references are open. -/
def close? : Nat → List Char → Option (List Char × List Char)
  | _, [] => none
  | depth, '\\' :: '$' :: '{' :: rest => prepend ['\\', '$', '{'] (close? depth rest)
  | depth, '$' :: '{' :: rest => prepend ['$', '{'] (close? (depth + 1) rest)
  | 0, '}' :: rest => some ([], rest)
  | depth + 1, '}' :: rest => prepend ['}'] (close? depth rest)
  | depth, c :: rest => prepend [c] (close? depth rest)

/-- Cuts a body at its first `:-` outside of nested references, of which `depth` are open. -/
def cut : Nat → List Char → List Char × Option (List Char)
  | _, [] => ([], none)
  | depth, '$' :: '{' :: rest => (cut (depth + 1) rest).map (['$', '{'] ++ ·) id
  | depth, '}' :: rest => (cut (depth - 1) rest).map ('}' :: ·) id
  | 0, ':' :: '-' :: rest => ([], some rest)
  | depth, c :: rest => (cut depth rest).map (c :: ·) id

/-- The name in a body. -/
def name (body : List Char) : String :=
  String.ofList (Text.trimChars (cut 0 body).1)

/-- The inline default in a body. -/
def fallback? (body : List Char) : Option (List Char) := (cut 0 body).2

/-- The text of a reference with the given body. -/
def write (body : List Char) : List Char :=
  '$' :: '{' :: body ++ ['}']

/-- The body of the reference that makes up the whole text. -/
def whole? : List Char → Option (List Char)
  | '$' :: '{' :: rest =>
    match close? 0 rest with
    | some (body, []) => some body
    | _ => none
  | _ => none

/-- A body, its closing brace and what follows are the text. -/
theorem eq_of_close? {depth : Nat} {s body after : List Char}
    (h : close? depth s = some (body, after)) : s = body ++ '}' :: after := by
  fun_induction close? depth s generalizing body after <;>
    simp_all [prepend] <;> grind

theorem length_of_close? {depth : Nat} {s body after : List Char}
    (h : close? depth s = some (body, after)) : s.length = body.length + after.length + 1 := by
  rw [eq_of_close? h]
  simp
  omega

/-- The text that is one reference is the written form of that reference. -/
theorem eq_write_of_whole? {s body : List Char} (h : whole? s = some body) : s = write body := by
  unfold whole? at h
  split at h
  · split at h
    · rename_i rest _ hclose
      cases h
      simp [write, eq_of_close? hclose]
    · cases h
  · cases h

theorem length_of_cut {depth : Nat} {body before after : List Char}
    (h : cut depth body = (before, some after)) : after.length < body.length := by
  fun_induction cut depth body generalizing before after <;>
    simp_all [Prod.map] <;> grind

theorem length_of_fallback? {body fallback : List Char} (h : fallback? body = some fallback) :
    fallback.length < body.length :=
  length_of_cut (show cut 0 body = ((cut 0 body).1, some fallback) from Prod.ext rfl h)

end CommandLine.Reference
