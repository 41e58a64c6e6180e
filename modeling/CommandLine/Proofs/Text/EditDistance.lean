import CommandLine.Text.EditDistance
import Mathlib.Order.Bounds.Basic
import Mathlib.Order.MinMax

/-!
# The edit distance is least

An edit inserts, deletes or replaces one character, anywhere in a text. `distance` is the recurrence
on the first characters of two texts: so many edits are enough (`edits_distance`), and no edit
lowers it by more than one (`Edit.distance_le`), so fewer are not (`distance_le_of_edits`). The rows
of `editDistance` hold these distances for the beginnings of the texts, read backwards
(`distanceRow_eq`). So the edit distance is the least number of edits (`isLeast_editDistance`).
-/

namespace CommandLine.Text

variable {a b s t : List Char}

/-! ## Edits -/

/-- One character is inserted, deleted or replaced. -/
inductive Edit : List Char → List Char → Prop
  | insert (front back : List Char) (c : Char) : Edit (front ++ back) (front ++ c :: back)
  | delete (front back : List Char) (c : Char) : Edit (front ++ c :: back) (front ++ back)
  | replace (front back : List Char) (c d : Char) : Edit (front ++ c :: back) (front ++ d :: back)

namespace Edit

theorem symm (h : Edit s t) : Edit t s := by
  cases h with
  | insert front back c => exact .delete front back c
  | delete front back c => exact .insert front back c
  | replace front back c d => exact .replace front back d c

theorem cons (h : Edit s t) (e : Char) : Edit (e :: s) (e :: t) := by
  cases h with
  | insert front back c => exact .insert (e :: front) back c
  | delete front back c => exact .delete (e :: front) back c
  | replace front back c d => exact .replace (e :: front) back c d

theorem reverse (h : Edit s t) : Edit s.reverse t.reverse := by
  cases h with
  | insert front back c => simpa using Edit.insert back.reverse front.reverse c
  | delete front back c => simpa using Edit.delete back.reverse front.reverse c
  | replace front back c d => simpa using Edit.replace back.reverse front.reverse c d

end Edit

/-- So many edits, one after the other, make one text of the other. -/
inductive Edits : Nat → List Char → List Char → Prop
  | refl (s : List Char) : Edits 0 s s
  | step {n : Nat} {s a t : List Char} (h : Edit s a) (rest : Edits n a t) : Edits (n + 1) s t

namespace Edits

theorem trans {m n : Nat} (h : Edits m s a) (h' : Edits n a t) : Edits (m + n) s t := by
  induction h with
  | refl s => simpa using h'
  | step hfirst rest ih =>
    rw [Nat.add_right_comm]
    exact .step hfirst (ih h')

theorem single (h : Edit s t) : Edits 1 s t := .step h (.refl t)

theorem symm {n : Nat} (h : Edits n s t) : Edits n t s := by
  induction h with
  | refl s => exact .refl s
  | step hfirst rest ih => exact ih.trans (single hfirst.symm)

theorem cons {n : Nat} (h : Edits n s t) (c : Char) : Edits n (c :: s) (c :: t) := by
  induction h with
  | refl s => exact .refl _
  | step hfirst rest ih => exact .step (hfirst.cons c) ih

theorem reverse {n : Nat} (h : Edits n s t) : Edits n s.reverse t.reverse := by
  induction h with
  | refl s => exact .refl _
  | step hfirst rest ih => exact .step hfirst.reverse ih

theorem zero_iff : Edits 0 s t ↔ s = t := by
  constructor
  · rintro ⟨⟩
    rfl
  · rintro rfl
    exact .refl s

theorem reverse_iff {n : Nat} : Edits n s.reverse t.reverse ↔ Edits n s t :=
  ⟨fun h => by simpa using h.reverse, reverse⟩

end Edits

/-! ## The recurrence -/

/-- The edit distance by the first characters of two texts. -/
def distance : List Char → List Char → Nat
  | [], t => t.length
  | s, [] => s.length
  | c :: s, d :: t =>
    min (min (distance s (d :: t) + 1) (distance (c :: s) t + 1))
      (distance s t + if c = d then 0 else 1)
termination_by s t => s.length + t.length

@[simp] theorem distance_nil_left (t : List Char) : distance [] t = t.length := by
  rw [distance]

@[simp] theorem distance_nil_right (s : List Char) : distance s [] = s.length := by
  cases s with
  | nil => rw [distance]
  | cons c s => rw [distance]; nofun

theorem distance_cons_cons (c d : Char) (s t : List Char) :
    distance (c :: s) (d :: t) =
      min (min (distance s (d :: t) + 1) (distance (c :: s) t + 1))
        (distance s t + if c = d then 0 else 1) := by
  rw [distance]

theorem distance_self (s : List Char) : distance s s = 0 := by
  induction s with
  | nil => simp
  | cons c s ih => simp [distance_cons_cons, ih]

theorem edits_insert_all (t : List Char) : Edits t.length [] t := by
  induction t with
  | nil => exact .refl []
  | cons c t ih => exact ih.trans (.single (.insert [] t c))

/-- So many edits are enough. -/
theorem edits_distance (s t : List Char) : Edits (distance s t) s t := by
  induction s, t using distance.induct with
  | case1 t =>
    rw [distance_nil_left]
    exact edits_insert_all t
  | case2 s hne =>
    rw [distance_nil_right]
    exact (edits_insert_all s).symm
  | case3 c s d t hdelete hinsert hreplace =>
    have hreplace' : Edits (distance s t + if c = d then 0 else 1) (c :: s) (d :: t) := by
      by_cases h : c = d
      · subst h
        simpa using hreplace.cons c
      · rw [if_neg h]
        exact (hreplace.cons c).trans (.single (.replace [] t c d))
    rw [distance_cons_cons]
    rcases min_choice (min (distance s (d :: t) + 1) (distance (c :: s) t + 1))
      (distance s t + if c = d then 0 else 1) with h | h
    · rw [h]
      rcases min_choice (distance s (d :: t) + 1) (distance (c :: s) t + 1) with h | h
      · rw [h]
        exact .step (.delete [] s c) hdelete
      · rw [h]
        exact hinsert.trans (.single (.insert [] t d))
    · rw [h]
      exact hreplace'

/-! ## Fewer edits are not enough -/

theorem distance_cons_left_le (c : Char) (s t : List Char) :
    distance (c :: s) t ≤ distance s t + 1 := by
  cases t with
  | nil => simp
  | cons d t =>
    rw [distance_cons_cons]
    omega

theorem distance_cons_right_le (d : Char) (s t : List Char) :
    distance s (d :: t) ≤ distance s t + 1 := by
  cases s with
  | nil => simp
  | cons c s =>
    rw [distance_cons_cons]
    omega

theorem distance_le_cons_left (c : Char) (s t : List Char) :
    distance s t ≤ distance (c :: s) t + 1 := by
  induction t with
  | nil =>
    simp
    omega
  | cons d t ih =>
    have hright := distance_cons_right_le d s t
    rw [distance_cons_cons]
    omega

theorem distance_replace_le (c d : Char) (s t : List Char) :
    distance (c :: s) t ≤ distance (d :: s) t + 1 := by
  induction t with
  | nil => simp
  | cons e t ih =>
    have hcost : (if c = e then 0 else 1) ≤ 1 := by split <;> omega
    rw [distance_cons_cons, distance_cons_cons]
    omega

theorem distance_cons_le (h : ∀ t, distance a t ≤ distance b t + 1) (c : Char) (t : List Char) :
    distance (c :: a) t ≤ distance (c :: b) t + 1 := by
  induction t with
  | nil => simpa using h []
  | cons e t ih =>
    have hdelete := h (e :: t)
    have hreplace := h t
    rw [distance_cons_cons, distance_cons_cons]
    omega

theorem distance_append_le (h : ∀ t, distance a t ≤ distance b t + 1) (front t : List Char) :
    distance (front ++ a) t ≤ distance (front ++ b) t + 1 := by
  induction front generalizing t with
  | nil => exact h t
  | cons c front ih => exact distance_cons_le ih c t

/-- An edit changes the distance from no text by more than one. -/
theorem Edit.distance_le (h : Edit a b) (t : List Char) : distance a t ≤ distance b t + 1 := by
  cases h with
  | insert front back c => exact distance_append_le (distance_le_cons_left c back) front t
  | delete front back c => exact distance_append_le (distance_cons_left_le c back) front t
  | replace front back c d => exact distance_append_le (distance_replace_le c d back) front t

theorem distance_le_of_edits {n : Nat} (h : Edits n s t) : distance s t ≤ n := by
  induction h with
  | refl s => rw [distance_self]
  | step hfirst rest ih => exact Nat.le_trans (hfirst.distance_le _) (Nat.succ_le_succ ih)

/-! ## Rows -/

/-- The distances of a text from all texts that go on from `seen` with a beginning of the right
text, the shortest first. Both are read backwards. -/
def rowFrom (s : List Char) : List Char → List Char → List Nat
  | seen, [] => [distance s seen]
  | seen, r :: right => distance s seen :: rowFrom s (r :: seen) right

theorem rowFrom_eq_cons (s seen right : List Char) :
    rowFrom s seen right = distance s seen :: (rowFrom s seen right).tail := by
  cases right <;> rfl

theorem fillRow_eq (c : Char) (s seen right : List Char) :
    fillRow c (distance s seen) (distance (c :: s) seen) right (rowFrom s seen right).tail =
      (rowFrom (c :: s) seen right).tail := by
  induction right generalizing seen with
  | nil => rfl
  | cons r right ih =>
    show fillRow c (distance s seen) (distance (c :: s) seen) (r :: right)
      (rowFrom s (r :: seen) right) = rowFrom (c :: s) (r :: seen) right
    rw [rowFrom_eq_cons s, rowFrom_eq_cons (c :: s), fillRow, ← distance_cons_cons, ih]

theorem nextRow_eq (c : Char) (s right : List Char) :
    nextRow right (rowFrom s [] right) c = rowFrom (c :: s) [] right := by
  have hfill := fillRow_eq c s [] right
  rw [distance_nil_right, distance_nil_right] at hfill
  rw [rowFrom_eq_cons s, rowFrom_eq_cons (c :: s), distance_nil_right, distance_nil_right, nextRow,
    ← hfill]
  rfl

theorem rowFrom_nil (seen right : List Char) :
    rowFrom [] seen right = List.range' seen.length (right.length + 1) := by
  induction right generalizing seen with
  | nil => simp [rowFrom]
  | cons r right ih =>
    rw [rowFrom, ih, distance_nil_left]
    exact List.range'_succ.symm

/-- The row of a left text holds its distances from all beginnings of the right text. -/
theorem distanceRow_eq (left right : List Char) :
    distanceRow left right = rowFrom left.reverse [] right := by
  have hgo : ∀ s, left.foldl (nextRow right) (rowFrom s [] right) =
      rowFrom (left.reverse ++ s) [] right := by
    induction left with
    | nil => exact fun s => rfl
    | cons c left ih =>
      intro s
      rw [List.foldl_cons, nextRow_eq, ih, List.reverse_cons, List.append_assoc]
      rfl
  have hstart : List.range (right.length + 1) = rowFrom [] [] right := by
    rw [rowFrom_nil, List.range_eq_range']
    rfl
  rw [distanceRow, hstart, hgo, List.append_nil]

theorem getLast?_rowFrom (s seen right : List Char) :
    (rowFrom s seen right).getLast? = some (distance s (right.reverse ++ seen)) := by
  induction right generalizing seen with
  | nil => rfl
  | cons r right ih =>
    rw [rowFrom, List.getLast?_cons, ih, List.reverse_cons, List.append_assoc]
    rfl

theorem editDistance_eq (left right : String) :
    editDistance left right = distance left.toList.reverse right.toList.reverse := by
  rw [editDistance, distanceRow_eq, getLast?_rowFrom, List.append_nil]
  rfl

/-! ## The edit distance -/

/-- The edit distance is the least number of edits that make one text of the other. -/
theorem isLeast_editDistance (left right : String) :
    IsLeast {n | Edits n left.toList right.toList} (editDistance left right) := by
  rw [editDistance_eq]
  constructor
  · exact Edits.reverse_iff.1 (edits_distance _ _)
  · exact fun n hn => distance_le_of_edits (Edits.reverse_iff.2 hn)

theorem editDistance_comm (left right : String) :
    editDistance left right = editDistance right left := by
  have hle : ∀ left right, editDistance left right ≤ editDistance right left := fun left right =>
    (isLeast_editDistance left right).2 (isLeast_editDistance right left).1.symm
  exact Nat.le_antisymm (hle left right) (hle right left)

theorem editDistance_eq_zero_iff {left right : String} :
    editDistance left right = 0 ↔ left = right := by
  rw [← String.toList_inj, ← Edits.zero_iff]
  constructor
  · intro h
    exact h ▸ (isLeast_editDistance left right).1
  · exact fun h => Nat.le_zero.1 ((isLeast_editDistance left right).2 h)

theorem editDistance_triangle (left middle right : String) :
    editDistance left right ≤ editDistance left middle + editDistance middle right :=
  (isLeast_editDistance left right).2
    ((isLeast_editDistance left middle).1.trans (isLeast_editDistance middle right).1)

end CommandLine.Text
