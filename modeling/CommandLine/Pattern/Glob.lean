/-!
Glob patterns. `?` and `*` stand for characters of one path component, `**` as a whole component
for any number of components, and brackets for one of some characters.
-/

namespace CommandLine.Pattern

/-- What follows the `]` that closes brackets, which hold at least one character, if they are
closed. -/
def afterBrackets? : List Char → Option (List Char)
  | _ :: rest =>
    match rest.dropWhile (· != ']') with
    | _ :: after => some after
    | [] => none
  | [] => none

theorem length_of_afterBrackets? {s after : List Char} (h : afterBrackets? s = some after) :
    after.length < s.length := by
  unfold afterBrackets? at h
  split at h
  · rename_i rest
    split at h
    · rename_i c a heq
      cases h
      have := (List.dropWhile_sublist (· != ']') (l := rest)).length_le
      rw [heq] at this
      simp at this ⊢
      omega
    · cases h
  · cases h

/-- The rest of a glob pattern is well formed. A component starts here when `atStart` holds. -/
def isGlobFrom (atStart : Bool) : List Char → Bool
  | [] => true
  | '*' :: '*' :: '*' :: _ => false
  | ['*', '*'] => atStart
  | '*' :: '*' :: c :: rest => atStart && c == '/' && isGlobFrom true rest
  | '[' :: '!' :: rest =>
    match _h : afterBrackets? rest with
    | some after => isGlobFrom false after
    | none => false
  | '[' :: rest =>
    match _h : afterBrackets? rest with
    | some after => isGlobFrom false after
    | none => false
  | c :: rest => isGlobFrom (c == '/') rest
termination_by s => s.length
decreasing_by
  all_goals simp_wf
  all_goals try have := length_of_afterBrackets? _h
  all_goals omega

/-- The text is a glob pattern. -/
def isGlob (s : List Char) : Bool := isGlobFrom true s

end CommandLine.Pattern
