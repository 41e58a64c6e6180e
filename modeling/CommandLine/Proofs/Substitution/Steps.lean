import CommandLine.Expansion
import Mathlib.Logic.Function.Iterate

/-!
# Expansion in steps

The expansion of a text, taken apart into moments: what is done next, and the frames of all that
waits for it. `step` goes from one moment to the next. `openNames_step` says what a step does to the
names whose stored texts are being expanded, and `Orderly` is what holds of them at all times.
-/

namespace CommandLine.Expansion

/-- What is done next. -/
inductive Work where
  | text (chars : List Char)
  /-- The pieces of `rest` are expanded, after a part of the text that has become `out`. -/
  | pieces (out rest : List Char)
  | reference (body : List Char)
  /-- A name stands for nothing; its reference falls back on the inline default. -/
  | fallback (default? : Option (List Char))
  | outcome (outcome : Except Fault (Option (List Char)))

/-- What waits for an outcome. -/
inductive Frame where
  /-- A text with a reference, between a part that has become `out` and the rest. -/
  | pieces (out body after : List Char)
  /-- A reference, for the expansion of the text stored for its name. -/
  | stored (name : String) (default? : Option (List Char))

/-- The name whose stored text is being expanded. -/
def Frame.name? : Frame → Option String
  | .pieces .. => none
  | .stored name _ => some name

/-- The names whose stored texts are being expanded, the outermost first. The innermost frame is the
first. -/
def namesOf : List Frame → List String
  | [] => []
  | frame :: frames => namesOf frames ++ frame.name?.toList

structure Moment where
  work : Work
  frames : List Frame

def Moment.openNames (m : Moment) : List String := namesOf m.frames

/-- Before anything is expanded. -/
def Moment.start (text : String) : Moment := ⟨.text text.toList, []⟩

/-- Nothing waits for the outcome any more. -/
def Moment.done (outcome : Except Fault (Option (List Char))) : Moment := ⟨.outcome outcome, []⟩

@[simp] theorem namesOf_pieces (out body after : List Char) (frames : List Frame) :
    namesOf (.pieces out body after :: frames) = namesOf frames :=
  List.append_nil _

@[simp] theorem namesOf_stored (name : String) (default? : Option (List Char))
    (frames : List Frame) :
    namesOf (.stored name default? :: frames) = namesOf frames ++ [name] := rfl

/-! ## Steps -/

/-- Expands the next piece. -/
def scan (out : List Char) (frames : List Frame) : List Char → Moment
  | [] => ⟨.outcome (.ok (some out)), frames⟩
  | '\\' :: '$' :: '{' :: rest => ⟨.pieces (out ++ ['$', '{']) rest, frames⟩
  | '$' :: '{' :: rest =>
    match Reference.close? 0 rest with
    | none => ⟨.outcome (.ok (some (out ++ '$' :: '{' :: rest))), frames⟩
    | some (body, after) => ⟨.reference body, .pieces out body after :: frames⟩
  | c :: rest => ⟨.pieces (out ++ [c]) rest, frames⟩

/-- Opens the name of a reference, unless it is open already or has no stored text. -/
def enter (r : Resolver) (body : List Char) (frames : List Frame) : Moment :=
  if Reference.name body ∈ namesOf frames then
    ⟨.outcome (.error (.cyclicSubstitution
      ((namesOf frames).dropWhile (· ≠ Reference.name body) ++ [Reference.name body]))), frames⟩
  else match r.lookup (Reference.name body) with
    | some text =>
      ⟨.text text.toList, .stored (Reference.name body) (Reference.fallback? body) :: frames⟩
    | none => ⟨.fallback (Reference.fallback? body), frames⟩

/-- Hands an outcome to the innermost frame. -/
def leave (outcome : Except Fault (Option (List Char))) : List Frame → Moment
  | [] => .done outcome
  | frame :: frames =>
    match outcome, frame with
    | .error fault, _ => ⟨.outcome (.error fault), frames⟩
    | .ok value?, .pieces out body after =>
      ⟨.pieces (out ++ value?.getD (Reference.write body)) after, frames⟩
    | .ok (some value), .stored .. => ⟨.outcome (.ok (some value)), frames⟩
    | .ok none, .stored _ default? => ⟨.fallback default?, frames⟩

/-- The moment after this one. Once all is done, nothing changes any more. -/
def step (r : Resolver) (m : Moment) : Moment :=
  match m.work with
  | .text chars =>
    match Reference.whole? chars with
    | some body => ⟨.reference body, m.frames⟩
    | none => ⟨.pieces [] chars, m.frames⟩
  | .pieces out rest => scan out m.frames rest
  | .reference body => enter r body m.frames
  | .fallback (some default) => ⟨.text default, m.frames⟩
  | .fallback none => ⟨.outcome (.ok none), m.frames⟩
  | .outcome outcome => leave outcome m.frames

@[simp] theorem step_done (r : Resolver) (outcome : Except Fault (Option (List Char))) :
    step r (.done outcome) = .done outcome := rfl

/-! ## What a step does to the open names -/

variable {r : Resolver}

theorem openNames_scan (out : List Char) (frames : List Frame) (rest : List Char) :
    (scan out frames rest).openNames = namesOf frames := by
  unfold scan
  split
  · rfl
  · rfl
  · split
    · rfl
    · exact namesOf_pieces ..
  · rfl

theorem openNames_enter (body : List Char) (frames : List Frame) :
    (enter r body frames).openNames = namesOf frames ∨
      ∃ name text, name ∉ namesOf frames ∧ r.lookup name = some text ∧
        (enter r body frames).openNames = namesOf frames ++ [name] := by
  unfold enter
  split
  · exact .inl rfl
  · rename_i hname
    cases h : r.lookup (Reference.name body) with
    | none => exact .inl rfl
    | some text => exact .inr ⟨_, text, hname, h, rfl⟩

theorem openNames_leave (outcome : Except Fault (Option (List Char))) (frames : List Frame) :
    (leave outcome frames).openNames <+: namesOf frames := by
  cases frames with
  | nil => exact List.prefix_refl _
  | cons frame frames =>
    have hframes : namesOf frames <+: namesOf (frame :: frames) := List.prefix_append ..
    rcases outcome with fault | _ | value <;> cases frame <;> exact hframes

/-- What a step can do: it opens a name that is not open and has a stored text, or it closes names,
the innermost first, or it leaves them as they are. -/
theorem openNames_step (m : Moment) :
    (step r m).openNames <+: m.openNames ∨
      ∃ name text, name ∉ m.openNames ∧ r.lookup name = some text ∧
        (step r m).openNames = m.openNames ++ [name] := by
  obtain ⟨work, frames⟩ := m
  have hrefl : namesOf frames <+: namesOf frames := List.prefix_refl _
  cases work with
  | text chars =>
    left
    unfold step
    dsimp only
    split <;> exact hrefl
  | pieces out rest =>
    left
    show (scan out frames rest).openNames <+: _
    rw [openNames_scan]
    exact hrefl
  | reference body =>
    rcases openNames_enter (r := r) body frames with h | h
    · left
      show (enter r body frames).openNames <+: _
      rw [h]
      exact hrefl
    · exact .inr h
  | fallback default? =>
    left
    cases default? <;> exact hrefl
  | outcome outcome => exact .inl (openNames_leave outcome frames)

/-! ## What holds at all times -/

/-- The open names differ from each other and have stored texts, and no fault but a cycle is on its
way out. -/
structure Orderly (r : Resolver) (m : Moment) : Prop where
  nodup : m.openNames.Nodup
  bound : ∀ name ∈ m.openNames, ∃ text, r.lookup name = some text
  cycle : ∀ fault, m.work = .outcome (.error fault) → ∃ chain, fault = .cyclicSubstitution chain

theorem orderly_start (r : Resolver) (text : String) : Orderly r (.start text) where
  nodup := List.nodup_nil
  bound _ h := absurd h List.not_mem_nil
  cycle _ h := nomatch h

theorem scan_ne_fault (out : List Char) (frames : List Frame) (rest : List Char) (fault : Fault) :
    (scan out frames rest).work ≠ .outcome (.error fault) := by
  intro h
  unfold scan at h
  split at h
  · cases h
  · cases h
  · split at h <;> cases h
  · cases h

theorem fault_of_enter {body : List Char} {frames : List Frame} {fault : Fault}
    (h : (enter r body frames).work = .outcome (.error fault)) :
    ∃ chain, fault = .cyclicSubstitution chain := by
  unfold enter at h
  split at h
  · cases h
    exact ⟨_, rfl⟩
  · split at h <;> cases h

theorem fault_of_leave {outcome : Except Fault (Option (List Char))} {frames : List Frame}
    {fault : Fault} (h : (leave outcome frames).work = .outcome (.error fault)) :
    outcome = .error fault := by
  cases frames with
  | nil =>
    cases h
    rfl
  | cons frame frames =>
    rcases outcome with fault' | _ | value
    · cases h
      rfl
    · cases frame <;> cases h
    · cases frame <;> cases h

theorem fault_of_step {m : Moment} {fault : Fault}
    (h : (step r m).work = .outcome (.error fault)) :
    (∃ chain, fault = .cyclicSubstitution chain) ∨ m.work = .outcome (.error fault) := by
  obtain ⟨work, frames⟩ := m
  cases work with
  | text chars =>
    unfold step at h
    dsimp only at h
    split at h <;> cases h
  | pieces out rest => exact absurd h (scan_ne_fault out frames rest fault)
  | reference body => exact .inl (fault_of_enter h)
  | fallback default? => cases default? <;> cases h
  | outcome outcome => exact .inr (congrArg Work.outcome (fault_of_leave h))

theorem Orderly.step {m : Moment} (h : Orderly r m) : Orderly r (step r m) where
  nodup := by
    rcases openNames_step (r := r) m with hclosed | ⟨name, text, hname, -, heq⟩
    · exact h.nodup.sublist hclosed.sublist
    · rw [heq]
      exact List.nodup_append.2 ⟨h.nodup, by simp, by grind⟩
  bound name hmem := by
    rcases openNames_step (r := r) m with hclosed | ⟨name', text, -, hlookup, heq⟩
    · exact h.bound name (hclosed.subset hmem)
    · rw [heq, List.mem_append, List.mem_singleton] at hmem
      rcases hmem with hmem | rfl
      · exact h.bound name hmem
      · exact ⟨text, hlookup⟩
  cycle fault hfault := (fault_of_step hfault).elim id (h.cycle fault)

/-- The moment after so many steps. -/
def after (r : Resolver) (text : String) (n : Nat) : Moment := (step r)^[n] (.start text)

theorem after_of_le {text : String} {n m : Nat} {outcome : Except Fault (Option (List Char))}
    (h : after r text n = .done outcome) (hle : n ≤ m) : after r text m = .done outcome := by
  obtain ⟨k, rfl⟩ := Nat.exists_eq_add_of_le' hle
  rw [after, Function.iterate_add_apply]
  show (step r)^[k] (after r text n) = _
  rw [h]
  exact Function.iterate_fixed (step_done r outcome) k

theorem orderly_after (r : Resolver) (text : String) (n : Nat) : Orderly r (after r text n) := by
  induction n with
  | zero => exact orderly_start r text
  | succ n ih =>
    rw [after, Function.iterate_succ_apply']
    exact ih.step

end CommandLine.Expansion
