import CommandLine.Proofs.Fallible
import CommandLine.Proofs.Substitution.Termination
import Mathlib

/-!
# Reports of cycles

A text mentions names, and a name refers to those that its stored text mentions. A cycle is reported
along the names that are open, each of which is mentioned where the expansion stood when it was
opened (`Path`). All that waits in the frames belongs to the text of some open name (`Held`), so
this is kept when a reference falls back on its default after its name has been closed.

`substitute_reports`: whatever names stand for, a reported cycle is one, and the text leads to it.
-/

namespace CommandLine

namespace Reference

/-- The text mentions the name, in a reference or in the inline default of one. -/
inductive Mentions : List Char → String → Prop
  | reference {rest body after : List Char} (h : close? 0 rest = some (body, after)) :
      Mentions ('$' :: '{' :: rest) (Reference.name body)
  | default {rest body after fallback : List Char} {name : String}
      (h : close? 0 rest = some (body, after)) (hfallback : fallback? body = some fallback)
      (hname : Mentions fallback name) : Mentions ('$' :: '{' :: rest) name
  | after {rest body after : List Char} {name : String} (h : close? 0 rest = some (body, after))
      (hname : Mentions after name) : Mentions ('$' :: '{' :: rest) name
  | escape {rest : List Char} {name : String} (hname : Mentions rest name) :
      Mentions ('\\' :: '$' :: '{' :: rest) name
  | other {c : Char} {rest : List Char} {name : String}
      (hreference : ∀ s, c :: rest ≠ '$' :: '{' :: s)
      (hescape : ∀ s, c :: rest ≠ '\\' :: '$' :: '{' :: s) (hname : Mentions rest name) :
      Mentions (c :: rest) name

end Reference

namespace Expansion

open Reference (Mentions)

/-! ## Expansion with names that stand for anything -/

/-- Opens the name of a reference, as `enter` does, where names stand for what a function says. -/
def enterWith (lookup : String → Option String) (body : List Char) (frames : List Frame) : Moment :=
  if Reference.name body ∈ namesOf frames then
    ⟨.outcome (.error (.cyclicSubstitution
      ((namesOf frames).dropWhile (· ≠ Reference.name body) ++ [Reference.name body]))), frames⟩
  else match lookup (Reference.name body) with
    | some text =>
      ⟨.text text.toList, .stored (Reference.name body) (Reference.fallback? body) :: frames⟩
    | none => ⟨.fallback (Reference.fallback? body), frames⟩

/-- The moment after this one, where names stand for what a function says. Only a reference asks
for that; all other steps are those of any resolver. -/
def stepWith (lookup : String → Option String) (m : Moment) : Moment :=
  match m.work with
  | .reference body => enterWith lookup body m.frames
  | _ => step ⟨[], ∅⟩ m

theorem stepWith_lookup (r : Resolver) : stepWith r.lookup = step r := by
  funext m
  obtain ⟨work, frames⟩ := m
  cases work with
  | fallback default? => cases default? <;> rfl
  | _ => rfl

/-- The steps of the expansion of a text come to an end with this outcome. -/
def EndsWith (lookup : String → Option String) (text : String)
    (outcome : Except Fault (Option (List Char))) : Prop :=
  ∃ n, (stepWith lookup)^[n] (.start text) = .done outcome

theorem endsWith_expand (r : Resolver) (text : String) :
    EndsWith r.lookup text (r.expand [] text.toList) := by
  obtain ⟨n, hn⟩ := leads_expand (r := r) [] text.toList
  refine ⟨n, ?_⟩
  rw [stepWith_lookup]
  exact hn

/-! ## Names and what they refer to -/

/-- The text stored for a name mentions the other. -/
def RefersTo (lookup : String → Option String) (name other : String) : Prop :=
  ∃ stored, lookup name = some stored ∧ Mentions stored.toList other

/-- Following stored texts, the text leads to the name. -/
def Reaches (lookup : String → Option String) (text : List Char) (name : String) : Prop :=
  ∃ first, Mentions text first ∧ Relation.ReflTransGen (RefersTo lookup) first name

/-- Following stored texts, the text leads to a name that leads back to itself. -/
def Circular (lookup : String → Option String) (text : List Char) : Prop :=
  ∃ name, Reaches lookup text name ∧ Relation.TransGen (RefersTo lookup) name name

/-- Each name refers to the next, the last one is the first, and all before it are different. -/
structure Cycle (lookup : String → Option String) (chain : List String) : Prop where
  two_le_length : 2 ≤ chain.length
  getLast?_eq : chain.getLast? = chain.head?
  nodup : chain.dropLast.Nodup
  linked : chain.IsChain (RefersTo lookup)

/-- The fault reports a cycle to which the text leads. -/
def Reports (lookup : String → Option String) (text : List Char) (fault : Fault) : Prop :=
  ∃ chain, fault = .cyclicSubstitution chain ∧ Cycle lookup chain ∧
    ∀ name ∈ chain.head?, Reaches lookup text name

variable {lookup : String → Option String} {text : List Char}

theorem Cycle.transGen {chain : List String} (h : Cycle lookup chain) {name : String}
    (hname : name ∈ chain.head?) : Relation.TransGen (RefersTo lookup) name name := by
  match chain, h, hname with
  | [first], h, _ => exact absurd h.two_le_length (by simp)
  | first :: next :: rest, h, hname =>
    obtain rfl : first = name := by simpa using hname
    obtain ⟨hfirst, hrest⟩ := List.isChain_cons_cons.1 h.linked
    have hlast : (next :: rest).getLast (List.cons_ne_nil _ _) = first := by
      have := h.getLast?_eq
      rw [List.getLast?_cons_cons, List.head?_cons] at this
      exact (List.getLast_of_getLast?_eq_some this)
    exact .head' hfirst (List.relationReflTransGen_of_exists_isChain_cons rest hrest hlast)

theorem Reports.circular {fault : Fault} (h : Reports lookup text fault) :
    Circular lookup text := by
  obtain ⟨chain, -, hcycle, hreaches⟩ := h
  cases hhead : chain.head? with
  | none =>
    have := hcycle.two_le_length
    simp [List.head?_eq_none_iff.1 hhead] at this
  | some name => exact ⟨name, hreaches name hhead, hcycle.transGen hhead⟩

/-! ## Open names

`names` are the open names, the outermost first. -/

/-- The name is mentioned where the expansion stands: in the text stored for the innermost open
name, or in the text itself. -/
def Current (lookup : String → Option String) (text : List Char) (names : List String)
    (name : String) : Prop :=
  match names.getLast? with
  | none => Mentions text name
  | some last => RefersTo lookup last name

@[simp] theorem current_nil {name : String} :
    Current lookup text [] name ↔ Mentions text name := Iff.rfl

@[simp] theorem current_concat {names : List String} {last name : String} :
    Current lookup text (names ++ [last]) name ↔ RefersTo lookup last name := by
  rw [Current, List.getLast?_concat]

/-- Each open name is mentioned where the expansion stood before. -/
structure Path (lookup : String → Option String) (text : List Char) (names : List String) :
    Prop where
  first : ∀ name ∈ names.head?, Mentions text name
  linked : names.IsChain (RefersTo lookup)

theorem Path.concat {names : List String} {name : String} (h : Path lookup text names)
    (hname : Current lookup text names name) : Path lookup text (names ++ [name]) := by
  rcases List.eq_nil_or_concat names with rfl | ⟨front, last, rfl⟩
  · exact ⟨by simpa using hname, List.isChain_singleton name⟩
  · rw [List.concat_eq_append] at h hname ⊢
    refine ⟨fun first hfirst => h.first first ?_, ?_⟩
    · simpa using hfirst
    · refine List.isChain_append.2 ⟨h.linked, List.isChain_singleton name, ?_⟩
      simpa using current_concat.1 hname

theorem Path.of_append {names rest : List String} (h : Path lookup text (names ++ rest)) :
    Path lookup text names := by
  refine ⟨fun name hname => h.first name ?_, h.linked.left_of_append⟩
  rw [List.head?_append]
  simp_all

theorem Path.reaches {front rest : List String} {name : String}
    (h : Path lookup text (front ++ name :: rest)) : Reaches lookup text name := by
  cases front with
  | nil => exact ⟨name, h.first name rfl, .refl⟩
  | cons first front =>
    refine ⟨first, h.first first rfl, ?_⟩
    have hlinked : (first :: (front ++ [name])).IsChain (RefersTo lookup) := by
      refine h.linked.prefix ⟨rest, ?_⟩
      simp
    exact List.relationReflTransGen_of_exists_isChain_cons _ hlinked (by simp)

/-- An open name that comes up again closes a cycle. -/
theorem reports_of_mem {names : List String} {name : String} (h : Path lookup text names)
    (hnodup : names.Nodup) (hmem : name ∈ names) (hname : Current lookup text names name) :
    Reports lookup text (.cyclicSubstitution (names.dropWhile (· ≠ name) ++ [name])) := by
  obtain ⟨front, rest, rfl, hfront⟩ := List.eq_append_cons_of_mem hmem
  have hdrop : (front ++ name :: rest).dropWhile (· ≠ name) = name :: rest := by
    rw [List.dropWhile_append_of_pos fun other hother => ?_]
    · simp
    · simpa using fun heq : other = name => hfront (heq ▸ hother)
  have hlinked : ((front ++ name :: rest) ++ [name]).IsChain (RefersTo lookup) :=
    (h.concat hname).linked
  rw [hdrop]
  refine ⟨_, rfl, ⟨by simp, ?_, ?_, hlinked.suffix ⟨front, by simp⟩⟩, ?_⟩
  · rw [List.getLast?_concat]
    rfl
  · rw [List.dropLast_concat]
    exact (List.nodup_append.1 hnodup).2.1
  · intro first hfirst
    obtain rfl : name = first := by simpa using hfirst
    exact h.reaches

/-! ## What waits in the frames -/

/-- The reference mentions the name: it is its own, or its inline default mentions it. -/
def BodyMentions (body : List Char) (name : String) : Prop :=
  name = Reference.name body ∨
    ∃ fallback, Reference.fallback? body = some fallback ∧ Mentions fallback name

/-- What is done next may still come to the name. -/
def Work.Mentions : Work → String → Prop
  | .text chars, name => Reference.Mentions chars name
  | .pieces _ rest, name => Reference.Mentions rest name
  | .reference body, name => BodyMentions body name
  | .fallback default?, name => ∃ default, default? = some default ∧ Reference.Mentions default name
  | .outcome _, _ => False

/-- What waits in the frame may still come to the name. -/
def Frame.Mentions : Frame → String → Prop
  | .pieces _ _ after, name => Reference.Mentions after name
  | .stored _ default?, name => ∃ default, default? = some default ∧ Reference.Mentions default name

/-- What waits in each frame is mentioned where the expansion stood below it. -/
def Pending (lookup : String → Option String) (text : List Char) : List Frame → Prop
  | [] => True
  | frame :: frames =>
    (∀ name, frame.Mentions name → Current lookup text (namesOf frames) name) ∧
      Pending lookup text frames

/-- What holds of the frames at all times. -/
structure Held (lookup : String → Option String) (text : List Char) (frames : List Frame) :
    Prop where
  nodup : (namesOf frames).Nodup
  path : Path lookup text (namesOf frames)
  pending : Pending lookup text frames

theorem held_nil : Held lookup text [] :=
  ⟨List.nodup_nil, ⟨nofun, List.isChain_nil⟩, trivial⟩

theorem Held.of_cons {frame : Frame} {frames : List Frame}
    (h : Held lookup text (frame :: frames)) : Held lookup text frames :=
  ⟨(List.nodup_append.1 h.nodup).1, h.path.of_append, h.pending.2⟩

theorem Held.cons_pieces {frames : List Frame} (h : Held lookup text frames)
    (out body : List Char) {after : List Char}
    (hafter : ∀ name, Mentions after name → Current lookup text (namesOf frames) name) :
    Held lookup text (.pieces out body after :: frames) := by
  have hnames := namesOf_pieces out body after frames
  exact ⟨hnames ▸ h.nodup, hnames ▸ h.path, hafter, h.pending⟩

theorem Held.cons_stored {frames : List Frame} (h : Held lookup text frames) {name : String}
    (hname : name ∉ namesOf frames) (hcurrent : Current lookup text (namesOf frames) name)
    {default? : Option (List Char)}
    (hdefault : ∀ other, (∃ default, default? = some default ∧ Mentions default other) →
      Current lookup text (namesOf frames) other) :
    Held lookup text (.stored name default? :: frames) := by
  refine ⟨?_, h.path.concat hcurrent, hdefault, h.pending⟩
  rw [namesOf_stored]
  exact List.nodup_append.2 ⟨h.nodup, by simp, by grind⟩

/-! ## What holds at all times -/

/-- The frames hold what they may hold, whatever is done next is mentioned where the expansion
stands, and a fault on its way out reports a cycle. -/
structure Grounded (lookup : String → Option String) (text : List Char) (m : Moment) : Prop where
  held : Held lookup text m.frames
  work : ∀ name, m.work.Mentions name → Current lookup text (namesOf m.frames) name
  fault : ∀ fault, m.work = .outcome (.error fault) → Reports lookup text fault

theorem grounded_start (lookup : String → Option String) (text : String) :
    Grounded lookup text.toList (.start text) :=
  ⟨held_nil, fun _ h => h, nofun⟩

theorem Grounded.of_mentions {frames : List Frame} {work : Work} (h : Held lookup text frames)
    (hwork : ∀ name, work.Mentions name → Current lookup text (namesOf frames) name)
    (hfault : ∀ fault, work ≠ .outcome (.error fault)) :
    Grounded lookup text ⟨work, frames⟩ :=
  ⟨h, hwork, fun fault heq => absurd heq (hfault fault)⟩

theorem mentions_of_whole? {chars body : List Char} (h : Reference.whole? chars = some body)
    {name : String} (hname : BodyMentions body name) : Mentions chars name := by
  unfold Reference.whole? at h
  split at h
  · split at h
    · rename_i rest _ hclose
      cases h
      rcases hname with rfl | ⟨fallback, hfallback, hname⟩
      · exact .reference hclose
      · exact .default hclose hfallback hname
    · cases h
  · cases h

theorem grounded_scan {frames : List Frame} (h : Held lookup text frames) (out rest : List Char)
    (hrest : ∀ name, Mentions rest name → Current lookup text (namesOf frames) name) :
    Grounded lookup text (scan out frames rest) := by
  obtain rfl | ⟨rest', rfl⟩ | ⟨rest', rfl⟩ | ⟨c, rest', rfl, hreference, hescape⟩ :=
    pieces_cases rest
  · exact .of_mentions h nofun nofun
  · exact .of_mentions h (fun name hname => hrest name (.escape hname)) nofun
  · rw [scan]
    cases hclose : Reference.close? 0 rest' with
    | none => exact .of_mentions h nofun nofun
    | some bodyAfter =>
      obtain ⟨body, after⟩ := bodyAfter
      have hafter : ∀ name, Mentions after name → Current lookup text (namesOf frames) name :=
        fun name hname => hrest name (.after hclose hname)
      refine .of_mentions (h.cons_pieces out body hafter) ?_ nofun
      rw [namesOf_pieces]
      rintro name (rfl | ⟨fallback, hfallback, hname⟩)
      · exact hrest _ (.reference hclose)
      · exact hrest _ (.default hclose hfallback hname)
  · rw [scan_cons hreference hescape]
    exact .of_mentions h (fun name hname => hrest name (.other hreference hescape hname)) nofun

theorem grounded_enterWith {frames : List Frame} (h : Held lookup text frames) {body : List Char}
    (hbody : ∀ name, BodyMentions body name → Current lookup text (namesOf frames) name) :
    Grounded lookup text (enterWith lookup body frames) := by
  have hname : Current lookup text (namesOf frames) (Reference.name body) := hbody _ (.inl rfl)
  have hdefault : ∀ other, (∃ default, Reference.fallback? body = some default ∧
      Mentions default other) → Current lookup text (namesOf frames) other :=
    fun other hother => hbody other (.inr hother)
  unfold enterWith
  split
  · rename_i hmem
    refine ⟨h, nofun, ?_⟩
    rintro _ ⟨⟩
    exact reports_of_mem h.path h.nodup hmem hname
  · rename_i hmem
    split
    · rename_i stored hlookup
      refine .of_mentions (h.cons_stored hmem hname hdefault) (fun other hother => ?_) nofun
      rw [namesOf_stored, current_concat]
      exact ⟨stored, hlookup, hother⟩
    · exact .of_mentions h hdefault nofun

theorem grounded_leave {frames : List Frame} (h : Held lookup text frames)
    {outcome : Except Fault (Option (List Char))}
    (hfault : ∀ fault, outcome = .error fault → Reports lookup text fault) :
    Grounded lookup text (leave outcome frames) := by
  have hout : ∀ frames, Held lookup text frames → Grounded lookup text ⟨.outcome outcome, frames⟩ :=
    fun frames h => ⟨h, nofun, fun fault heq => hfault fault (Work.outcome.inj heq)⟩
  cases frames with
  | nil => exact hout [] h
  | cons frame frames =>
    have hbelow := h.of_cons
    have hpending := h.pending.1
    rcases outcome with fault | _ | value <;> cases frame
    · exact hout frames hbelow
    · exact hout frames hbelow
    · exact .of_mentions hbelow hpending nofun
    · exact .of_mentions hbelow hpending nofun
    · exact .of_mentions hbelow hpending nofun
    · exact hout frames hbelow

theorem Grounded.step {m : Moment} (h : Grounded lookup text m) :
    Grounded lookup text (stepWith lookup m) := by
  obtain ⟨work, frames⟩ := m
  obtain ⟨hheld, hwork, hfault⟩ := h
  cases work with
  | text chars =>
    cases hwhole : Reference.whole? chars with
    | some body =>
      have hstep : stepWith lookup ⟨.text chars, frames⟩ = ⟨.reference body, frames⟩ := by
        simp only [stepWith, Expansion.step, hwhole]
      rw [hstep]
      refine .of_mentions hheld (fun name hname => ?_) nofun
      exact hwork name (mentions_of_whole? hwhole hname)
    | none =>
      have hstep : stepWith lookup ⟨.text chars, frames⟩ = ⟨.pieces [] chars, frames⟩ := by
        simp only [stepWith, Expansion.step, hwhole]
      rw [hstep]
      exact .of_mentions hheld hwork nofun
  | pieces out rest => exact grounded_scan hheld out rest hwork
  | reference body => exact grounded_enterWith hheld hwork
  | fallback default? =>
    cases default? with
    | none => exact .of_mentions hheld nofun nofun
    | some fallback =>
      exact .of_mentions hheld (fun name hname => hwork name ⟨fallback, rfl, hname⟩) nofun
  | outcome outcome =>
    exact grounded_leave hheld fun fault heq => hfault fault (congrArg Work.outcome heq)

theorem grounded_iterate (lookup : String → Option String) (text : String) (n : Nat) :
    Grounded lookup text.toList ((stepWith lookup)^[n] (.start text)) := by
  induction n with
  | zero => exact grounded_start lookup text
  | succ n ih =>
    rw [Function.iterate_succ_apply']
    exact ih.step

theorem reports_of_endsWith {text : String} {fault : Fault}
    (h : EndsWith lookup text (.error fault)) : Reports lookup text.toList fault := by
  obtain ⟨n, hn⟩ := h
  have hgrounded := grounded_iterate lookup text n
  rw [hn] at hgrounded
  exact hgrounded.fault fault rfl

end Expansion

namespace Resolver

open Expansion

theorem endsWith_of_substitute {r : Resolver} {text : String} {fault : Fault}
    (h : r.substitute text = .error fault) : EndsWith r.lookup text (.error fault) := by
  have hexpand : r.expand [] text.toList = .error fault := Except.map_eq_error_iff.1 h
  rw [← hexpand]
  exact endsWith_expand r text

/-- **Reported cycles are real.** The only fault of a substitution is a cycle; each of its names has
a stored text that mentions the next one, the last name is the first, and no other name comes twice.
So a text that leads to no name that leads back to itself is never refused. The same holds whatever
the names stand for, be it in a table or not. -/
theorem substitute_reports (r : Resolver) (text : String) :
    (∀ fault, r.substitute text = .error fault → Reports r.lookup text.toList fault) ∧
      (¬ Circular r.lookup text.toList → ∃ value?, r.substitute text = .ok value?) ∧
      ∀ lookup : String → Option String,
        (∀ fault, EndsWith lookup text (.error fault) → Reports lookup text.toList fault) ∧
        (¬ Circular lookup text.toList → ∀ fault, ¬ EndsWith lookup text (.error fault)) := by
  refine ⟨fun fault h => reports_of_endsWith (endsWith_of_substitute h), fun hstraight => ?_,
    fun lookup => ⟨fun fault => reports_of_endsWith, fun hstraight fault h => ?_⟩⟩
  · cases h : r.substitute text with
    | ok value? => exact ⟨value?, rfl⟩
    | error fault =>
      exact absurd (reports_of_endsWith (endsWith_of_substitute h)).circular hstraight
  · exact hstraight (reports_of_endsWith h).circular

/-- One name leads to the other, which falls back on the first. -/
def loopSample : Resolver where
  contexts := []
  defaults := .ofTable (((∅ : Table String).insert "a" "x${b}").insert "b" "${c:-${a}}")

/-- A cycle through an inline default, and the chain that reports it. -/
theorem substitute_reports_loop :
    loopSample.substitute "${c} ${a}" = .error (.cyclicSubstitution ["a", "b", "a"]) ∧
      Cycle loopSample.lookup ["a", "b", "a"] := by
  have h : loopSample.substitute "${c} ${a}" = .error (.cyclicSubstitution ["a", "b", "a"]) := by
    cbv
  obtain ⟨chain, hchain, hcycle, -⟩ := (substitute_reports loopSample "${c} ${a}").1 _ h
  obtain rfl := Fault.cyclicSubstitution.inj hchain
  exact ⟨h, hcycle⟩

end Resolver

end CommandLine
