import CommandLine.Text.Blank
import Mathlib.Data.List.DropRight

/-!
# Trimmed texts

Which texts are left as they are when blanks are removed at their ends, and what is left of others.
-/

namespace CommandLine.Text

variable {s : List Char}

theorem trimChars_eq_self (h : ∀ c ∈ s, isBlank c = false) : trimChars s = s := by
  have hdrop : ∀ {l : List Char}, (∀ c ∈ l, isBlank c = false) → l.dropWhile isBlank = l := by
    intro l hl
    cases l with
    | nil => rfl
    | cons c l => exact List.dropWhile_cons_of_neg (by simp [hl c List.mem_cons_self])
  unfold trimChars
  rw [hdrop h, hdrop fun c hc => h c (List.mem_reverse.1 hc), List.reverse_reverse]

theorem trimChars_cons_ne_nil {c : Char} (hc : isBlank c = false) : trimChars (c :: s) ≠ [] := by
  unfold trimChars
  rw [List.dropWhile_cons_of_neg (by simp [hc]), List.reverse_cons, List.dropWhile_append]
  split <;> simp [hc]

theorem isBlank_of_trimChars_eq_cons {c : Char} {rest : List Char} (h : trimChars s = c :: rest) :
    isBlank c = false := by
  obtain ⟨front, hfront⟩ := List.dropWhile_suffix (l := (s.dropWhile isBlank).reverse) isBlank
  have hdrop : s.dropWhile isBlank = c :: rest ++ front.reverse := by
    rw [← h, trimChars, ← List.reverse_append, hfront, List.reverse_reverse]
  have hhead := List.head?_dropWhile_not isBlank s
  rw [hdrop] at hhead
  simpa using hhead

theorem dropWhile_reverse_trimChars (s : List Char) :
    (trimChars s).reverse.dropWhile isBlank = (trimChars s).reverse := by
  unfold trimChars
  rw [List.reverse_reverse, List.dropWhile_idempotent]

/-- Nothing more is removed from what is left. -/
@[simp] theorem trimChars_trimChars (s : List Char) : trimChars (trimChars s) = trimChars s := by
  have hfront : (trimChars s).dropWhile isBlank = trimChars s := by
    cases h : trimChars s with
    | nil => rfl
    | cons c rest => exact List.dropWhile_cons_of_neg (by simp [isBlank_of_trimChars_eq_cons h])
  rw [trimChars, hfront, dropWhile_reverse_trimChars, List.reverse_reverse]

theorem dropWhile_reverse_of_trimChars (h : trimChars s = s) :
    s.reverse.dropWhile isBlank = s.reverse := by
  rw [← h, dropWhile_reverse_trimChars]

theorem trimChars_cons_append {c : Char} (hc : isBlank c = false) (front : List Char)
    (h : trimChars s = s) (hs : s ≠ []) : trimChars (c :: front ++ s) = c :: front ++ s := by
  have hback := dropWhile_reverse_of_trimChars h
  unfold trimChars
  rw [List.cons_append, List.dropWhile_cons_of_neg (by simp [hc])]
  have hne : s.reverse ≠ [] := by simpa using hs
  rw [← List.cons_append, List.reverse_append, List.dropWhile_append, hback]
  simp [hs]

end CommandLine.Text
