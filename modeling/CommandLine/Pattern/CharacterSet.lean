import CommandLine.Text.Blank
import CommandLine.Text.Hexadecimal

/-!
Sets of characters. A set is kept by the codes at which it begins and ends by turns, so that one
sweep over two such lists makes every combination of two sets: `contains_combine` says that a
character is in a combination when the answers for the two sets combine to that.

`ofText` reads a set from the notation of the tables.
-/

namespace CommandLine.Pattern

/-- A set of characters, by the codes at which it begins and ends by turns. -/
structure CharacterSet where
  bounds : List Nat
  ascending : bounds.Pairwise (· < ·)
deriving DecidableEq

namespace CharacterSet

/-! ## Bounds -/

/-- Whether a code lies inside of some bounds, given whether the codes below all of them do. -/
def inside (below : Bool) : List Nat → Nat → Bool
  | [], _ => below
  | x :: xs, c => if c < x then below else inside (!below) xs c

/-- Puts a bound in front of others where the answer changes. -/
def edge (before after : Bool) (x : Nat) (rest : List Nat) : List Nat :=
  if before = after then rest else x :: rest

/-- The bounds of a combination of two sets, given whether the codes below all bounds are in the
one and in the other. -/
def sweep (op : Bool → Bool → Bool) (p q : Bool) : List Nat → List Nat → List Nat
  | [], ys => if op p true = op p false then [] else ys
  | xs, [] => if op true q = op false q then [] else xs
  | x :: xs, y :: ys =>
    if x < y then edge (op p q) (op (!p) q) x (sweep op (!p) q xs (y :: ys))
    else if y < x then edge (op p q) (op p (!q)) y (sweep op p (!q) (x :: xs) ys)
    else edge (op p q) (op (!p) (!q)) x (sweep op (!p) (!q) xs ys)
termination_by xs ys => xs.length + ys.length

theorem inside_of_forall_lt {p : Bool} {xs : List Nat} {c : Nat} (h : ∀ x ∈ xs, c < x) :
    inside p xs c = p := by
  cases xs with
  | nil => rfl
  | cons x xs => simp [inside, h x]

/-- Bounds serve for every function of the answer that tells the two answers apart. -/
theorem inside_map {f : Bool → Bool} (hf : f true ≠ f false) (q : Bool) (ys : List Nat) (c : Nat) :
    inside (f q) ys c = f (inside q ys c) := by
  have flip (b : Bool) : (!f b) = f (!b) := by
    cases b <;> cases ht : f true <;> cases hb : f false <;> simp_all
  induction ys generalizing q with
  | nil => rfl
  | cons y ys ih =>
    unfold inside
    split
    · rfl
    · rw [flip, ih]

theorem eq_of_apply_eq {f : Bool → Bool} (hf : f true = f false) (a b : Bool) : f a = f b := by
  cases a <;> cases b <;> simp_all

theorem mem_of_mem_edge {a b : Bool} {x z : Nat} {rest : List Nat} (h : z ∈ edge a b x rest) :
    z = x ∨ z ∈ rest := by
  unfold edge at h
  split at h
  · exact .inr h
  · simpa using h

theorem mem_of_mem_sweep {op : Bool → Bool → Bool} {p q : Bool} {xs ys : List Nat} {z : Nat}
    (h : z ∈ sweep op p q xs ys) : z ∈ xs ∨ z ∈ ys := by
  fun_induction sweep op p q xs ys <;> grind [mem_of_mem_edge]

theorem edge_ascending {a b : Bool} {x : Nat} {rest : List Nat} (h : rest.Pairwise (· < ·))
    (hx : ∀ z ∈ rest, x < z) : (edge a b x rest).Pairwise (· < ·) := by
  unfold edge
  split
  · exact h
  · exact List.pairwise_cons.2 ⟨hx, h⟩

theorem sweep_ascending {op : Bool → Bool → Bool} {p q : Bool} {xs ys : List Nat}
    (hx : xs.Pairwise (· < ·)) (hy : ys.Pairwise (· < ·)) :
    (sweep op p q xs ys).Pairwise (· < ·) := by
  fun_induction sweep op p q xs ys with
  | case1 => exact .nil
  | case2 => exact hy
  | case3 => exact .nil
  | case4 => exact hx
  | case5 p q x xs y ys hlt ih =>
    have hx' := List.pairwise_cons.1 hx
    have hy' := List.pairwise_cons.1 hy
    refine edge_ascending (ih hx'.2 hy) fun z hz => ?_
    rcases mem_of_mem_sweep hz with h | h <;> grind
  | case6 p q x xs y ys hle hlt ih =>
    have hx' := List.pairwise_cons.1 hx
    have hy' := List.pairwise_cons.1 hy
    refine edge_ascending (ih hx hy'.2) fun z hz => ?_
    rcases mem_of_mem_sweep hz with h | h <;> grind
  | case7 p q x xs y ys hle hge ih =>
    have hx' := List.pairwise_cons.1 hx
    have hy' := List.pairwise_cons.1 hy
    refine edge_ascending (ih hx'.2 hy'.2) fun z hz => ?_
    rcases mem_of_mem_sweep hz with h | h <;> grind

theorem inside_edge {a b : Bool} {x c : Nat} {rest : List Nat} (hx : ∀ z ∈ rest, x < z) :
    inside a (edge a b x rest) c = if c < x then a else inside b rest c := by
  unfold edge
  split
  · rename_i h
    subst h
    split
    · exact inside_of_forall_lt fun z hz => Nat.lt_trans ‹_› (hx z hz)
    · rfl
  · rename_i h
    have : (!a) = b := by cases a <;> cases b <;> simp_all
    simp [inside, this]

theorem inside_sweep {op : Bool → Bool → Bool} {p q : Bool} {xs ys : List Nat} {c : Nat}
    (hx : xs.Pairwise (· < ·)) (hy : ys.Pairwise (· < ·)) :
    inside (op p q) (sweep op p q xs ys) c = op (inside p xs c) (inside q ys c) := by
  fun_induction sweep op p q xs ys with
  | case1 p q ys h => exact eq_of_apply_eq (f := op p) h _ _
  | case2 p q ys h => exact inside_map (f := op p) h q ys c
  | case3 p q xs hxs h => exact eq_of_apply_eq (f := fun a => op a q) h _ _
  | case4 p q xs hxs h => exact inside_map (f := fun a => op a q) h p xs c
  | case5 p q x xs y ys hlt ih =>
    have hx' := List.pairwise_cons.1 hx
    have hy' := List.pairwise_cons.1 hy
    rw [inside_edge fun z hz => ?_, ih hx'.2 hy]
    · grind [inside]
    · rcases mem_of_mem_sweep hz with h | h <;> grind
  | case6 p q x xs y ys hle hlt ih =>
    have hx' := List.pairwise_cons.1 hx
    have hy' := List.pairwise_cons.1 hy
    rw [inside_edge fun z hz => ?_, ih hx hy'.2]
    · grind [inside]
    · rcases mem_of_mem_sweep hz with h | h <;> grind
  | case7 p q x xs y ys hle hge ih =>
    have hx' := List.pairwise_cons.1 hx
    have hy' := List.pairwise_cons.1 hy
    rw [inside_edge fun z hz => ?_, ih hx'.2 hy'.2]
    · grind [inside]
    · rcases mem_of_mem_sweep hz with h | h <;> grind

/-! ## Sets -/

/-- The characters of which the answers for two sets combine to yes. -/
def combine (op : Bool → Bool → Bool) (s t : CharacterSet) : CharacterSet :=
  ⟨sweep op false false s.bounds t.bounds, sweep_ascending s.ascending t.ascending⟩

def contains (s : CharacterSet) (c : Char) : Bool := inside false s.bounds c.toNat

theorem contains_combine {op : Bool → Bool → Bool} (h : op false false = false)
    (s t : CharacterSet) (c : Char) :
    (s.combine op t).contains c = op (s.contains c) (t.contains c) := by
  have step : inside (op false false) (sweep op false false s.bounds t.bounds) c.toNat = _ :=
    inside_sweep s.ascending t.ascending
  rwa [h] at step

instance : EmptyCollection CharacterSet := ⟨⟨[], .nil⟩⟩
instance : Union CharacterSet := ⟨combine or⟩
instance : Inter CharacterSet := ⟨combine and⟩
instance : SDiff CharacterSet := ⟨combine fun a b => a && !b⟩

/-- The characters that are in one of two sets and not in both. -/
def symmetricDifference : CharacterSet → CharacterSet → CharacterSet := combine xor

theorem contains_union (s t : CharacterSet) (c : Char) :
    (s ∪ t).contains c = (s.contains c || t.contains c) := contains_combine rfl s t c

theorem contains_inter (s t : CharacterSet) (c : Char) :
    (s ∩ t).contains c = (s.contains c && t.contains c) := contains_combine rfl s t c

theorem contains_sdiff (s t : CharacterSet) (c : Char) :
    (s \ t).contains c = (s.contains c && !t.contains c) := contains_combine rfl s t c

/-- All characters; surrogates are none. -/
def everything : CharacterSet := ⟨[0, 0xD800, 0xE000, 0x110000], by decide⟩

theorem contains_everything (c : Char) : everything.contains c = true := by
  have := c.valid
  simp only [UInt32.isValidChar, Nat.isValidChar] at this
  change c.toNat < _ ∨ _ < c.toNat ∧ c.toNat < _ at this
  simp only [contains, everything, inside]
  grind

/-- All characters that are not in a set. -/
def complement (s : CharacterSet) : CharacterSet := everything \ s

theorem contains_complement (s : CharacterSet) (c : Char) :
    s.complement.contains c = !s.contains c := by
  simp [complement, contains_sdiff, contains_everything]

/-- The characters between two codes, which belong to it. -/
def interval (first last : Nat) : CharacterSet :=
  if h : first ≤ last then
    everything ∩ ⟨[first, last + 1], by simpa using Nat.lt_succ_of_le h⟩
  else ∅

def singleton (c : Char) : CharacterSet := interval c.toNat c.toNat

/-- The characters of some closed intervals of codes. -/
def ofRanges (ranges : List (Nat × Nat)) : CharacterSet :=
  ranges.foldr (fun r s => interval r.1 r.2 ∪ s) ∅

/-- Closed intervals between bounds. -/
def between : List Nat → List (Nat × Nat)
  | first :: next :: rest => (first, next - 1) :: between rest
  | _ => []

/-- The closed intervals of a set, ascending and apart. -/
def ranges (s : CharacterSet) : List (Nat × Nat) := between s.bounds

/-- The character of a set that has one only. -/
def single? (s : CharacterSet) : Option Char :=
  match s.ranges with
  | [(first, last)] => if first = last then some (Char.ofNat first) else none
  | _ => none

/-- All characters of a set are ASCII. -/
def isAscii (s : CharacterSet) : Bool := s.bounds.all (· ≤ 0x80)

/-! ## The notation of tables -/

/-- The codes from one to another with a step between them. -/
def steps (first last step : Nat) : List Nat :=
  List.range' first ((last - first) / step + 1) step

/-- A code, an interval such as `41-5A`, or an interval with a step, such as `100-136/2`, all
hexadecimal. -/
def readRange (token : List Char) : List (Nat × Nat) :=
  match Text.cutAt? '-' token with
  | none => [(Text.hexValue token, Text.hexValue token)]
  | some (first, last) =>
    match Text.cutAt? '/' last with
    | none => [(Text.hexValue first, Text.hexValue last)]
    | some (last, step) =>
      (steps (Text.hexValue first) (Text.hexValue last) (Text.hexValue step)).map fun c => (c, c)

/-- The set that lines of intervals denote, between which there are spaces. -/
def ofText (lines : List String) : CharacterSet :=
  ofRanges (lines.flatMap fun line =>
    (line.splitOn " ").flatMap fun token => readRange token.toList)

end CharacterSet

end CommandLine.Pattern
