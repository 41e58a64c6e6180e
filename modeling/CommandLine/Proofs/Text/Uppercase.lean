import CommandLine.Text.Uppercase
import Mathlib.Data.List.Chain
import Mathlib.Data.List.Flatten

/-!
# Texts in upper case

The upper case of a text is its own upper case (`uppercase_uppercase`). For the tables this is found
run by run: what the characters of a run become lies between other runs, or alternates with one
(`clear`). So a text is the upper case of some text if and only if it is its own
(`exists_uppercase_eq_iff`).
-/

namespace CommandLine.Text

/-! ## Runs and what lies between them -/

/-- The characters with an upper case of several characters, as runs of one character. -/
def expandedRuns : List CaseRun :=
  caseExpansions.map fun entry => ⟨entry.1, entry.1, 1, 0⟩

/-- No run begins before an earlier one. -/
def Ascending (runs : List CaseRun) : Prop := runs.IsChain fun a b => a.first ≤ b.first

instance (runs : List CaseRun) : Decidable (Ascending runs) :=
  inferInstanceAs (Decidable (runs.IsChain _))

/-- Ascending runs hold none of the codes between two bounds; or, `byTwo`, none of every second one
of these. -/
def clear (low high : Nat) (byTwo : Bool) : List CaseRun → Bool
  | [] => true
  | run :: rest =>
    Nat.blt high run.first ||
      (Nat.blt run.last low || byTwo && run.step == 2 && (low + run.first) % 2 == 1) &&
        clear low high byTwo rest

theorem CaseRun.contains_iff {run : CaseRun} {code : Nat} : run.contains code = true ↔
    run.first ≤ code ∧ code ≤ run.last ∧ (code - run.first) % run.step = 0 := by
  simp [contains, and_assoc]

theorem contains_of_clear {low high code : Nat} {byTwo : Bool} {runs : List CaseRun}
    (hruns : Ascending runs) (h : clear low high byTwo runs = true) (hlow : low ≤ code)
    (hhigh : code ≤ high) (hbyTwo : byTwo = true → (code - low) % 2 = 0) :
    ∀ run ∈ runs, run.contains code = false := by
  induction runs with
  | nil => nofun
  | cons first rest ih =>
    obtain ⟨hfirst, -⟩ := List.pairwise_cons.1 (List.isChain_iff_pairwise.1 hruns)
    simp only [clear, Bool.or_eq_true, Bool.and_eq_true, Nat.blt_eq, beq_iff_eq] at h
    intro run hrun
    obtain hbefore | ⟨hout, hrest⟩ := h
    · -- all that is left begins after the codes
      have hle : first.first ≤ run.first := by
        rcases List.mem_cons.1 hrun with rfl | hrun
        · exact Nat.le_refl _
        · exact hfirst run hrun
      rw [← Bool.not_eq_true, CaseRun.contains_iff]
      omega
    rcases List.mem_cons.1 hrun with rfl | hrun
    · rw [← Bool.not_eq_true, CaseRun.contains_iff]
      rintro ⟨hstart, hend, hstep⟩
      obtain hafter | ⟨⟨htrue, htwo⟩, hodd⟩ := hout
      · omega
      · have heven := hbyTwo htrue
        rw [htwo] at hstep
        omega
    · exact ih hruns.tail hrest run hrun

/-! ## Characters without an upper case -/

/-- The tables have no upper case for the character of a code. -/
def Uncased (code : Nat) : Prop := ∀ run ∈ caseRuns ++ expandedRuns, run.contains code = false

theorem ascending_runs : Ascending caseRuns ∧ Ascending expandedRuns := by decide +kernel

theorem uncased_of_clear {low high code : Nat} {byTwo : Bool}
    (hclear : ∀ runs ∈ [caseRuns, expandedRuns], clear low high byTwo runs = true)
    (hlow : low ≤ code) (hhigh : code ≤ high) (hbyTwo : byTwo = true → (code - low) % 2 = 0) :
    Uncased code := by
  intro run hrun
  rcases List.mem_append.1 hrun with hrun | hrun
  · exact contains_of_clear ascending_runs.1 (hclear _ (by simp)) hlow hhigh hbyTwo run hrun
  · exact contains_of_clear ascending_runs.2 (hclear _ (by simp)) hlow hhigh hbyTwo run hrun

theorem uppercaseChar_of_uncased {c : Char} (h : Uncased c.toNat) : uppercaseChar c = [c] := by
  have hrun : caseRuns.find? (·.contains c.toNat) = none := by
    refine List.find?_eq_none.2 fun run hrun => ?_
    rw [h run (List.mem_append_left _ hrun)]
    exact Bool.false_ne_true
  have hexpansion : caseExpansions.lookup c.toNat = none := by
    refine List.lookup_eq_none_iff.2 fun entry hentry => ?_
    have hself := h ⟨entry.1, entry.1, 1, 0⟩
      (List.mem_append_right _ (List.mem_map.2 ⟨entry, hentry, rfl⟩))
    rw [bne_iff_ne]
    rintro hsame
    simp [CaseRun.contains, hsame] at hself
  unfold uppercaseChar
  rw [hrun, hexpansion]

/-- A number that is no code gives the character of code zero, which has no upper case either. -/
theorem uppercaseChar_ofNat {code : Nat} (h : Uncased code) :
    uppercaseChar (Char.ofNat code) = [Char.ofNat code] := by
  by_cases hvalid : code.isValidChar
  · have hcode : (Char.ofNat code).toNat = code := by
      unfold Char.ofNat
      rw [dif_pos hvalid]
      rfl
    refine uppercaseChar_of_uncased ?_
    rwa [hcode]
  · unfold Char.ofNat
    rw [dif_neg hvalid]
    decide +kernel

/-! ## What the tables map to -/

/-- What the characters of a run become lies between other runs. -/
theorem clear_bounds : ∀ run ∈ caseRuns, 0 ≤ run.first + run.shift ∧
    ∀ runs ∈ [caseRuns, expandedRuns],
      clear (run.first + run.shift).toNat (run.last + run.shift).toNat
        (run.step == 2 || run.first == run.last) runs = true := by
  decide +kernel

theorem clear_expanded : ∀ entry ∈ caseExpansions, ∀ code ∈ entry.2,
    ∀ runs ∈ [caseRuns, expandedRuns], clear code code true runs = true := by
  decide +kernel

theorem uncased_shifted {run : CaseRun} (hrun : run ∈ caseRuns) {code : Nat}
    (hcode : run.contains code = true) : Uncased (code + run.shift).toNat := by
  obtain ⟨hnonneg, hclear⟩ := clear_bounds run hrun
  obtain ⟨hfirst, hlast, hstep⟩ := CaseRun.contains_iff.1 hcode
  refine uncased_of_clear hclear ?_ ?_ fun hbyTwo => ?_
  · omega
  · omega
  · rcases Bool.or_eq_true_iff.1 hbyTwo with htwo | hone
    · rw [beq_iff_eq.1 htwo] at hstep
      omega
    · have hsame := beq_iff_eq.1 hone
      omega

theorem uncased_expanded {entry : Nat × List Nat} (hentry : entry ∈ caseExpansions) {code : Nat}
    (hcode : code ∈ entry.2) : Uncased code :=
  uncased_of_clear (clear_expanded entry hentry code hcode) (Nat.le_refl _) (Nat.le_refl _)
    fun _ => by rw [Nat.sub_self]

/-! ## Upper case of upper case -/

theorem uppercaseChar_of_mem {c d : Char} (h : d ∈ uppercaseChar c) : uppercaseChar d = [d] := by
  cases hrun : caseRuns.find? (·.contains c.toNat) with
  | some run =>
    have hcontains := List.find?_some hrun
    rw [uppercaseChar, hrun] at h
    rw [List.mem_singleton.1 h]
    exact uppercaseChar_ofNat (uncased_shifted (List.mem_of_find?_eq_some hrun) hcontains)
  | none =>
    cases hcodes : caseExpansions.lookup c.toNat with
    | some codes =>
      rw [uppercaseChar, hrun, hcodes] at h
      obtain ⟨code, hcode, rfl⟩ := List.mem_map.1 h
      obtain ⟨before, after, hsplit, -⟩ := List.lookup_eq_some_iff.1 hcodes
      have hentry : (c.toNat, codes) ∈ caseExpansions := by simp [hsplit]
      exact uppercaseChar_ofNat (uncased_expanded hentry hcode)
    | none =>
      have hself : uppercaseChar c = [c] := by rw [uppercaseChar, hrun, hcodes]
      rw [hself, List.mem_singleton] at h
      exact h ▸ hself

/-- **Upper case stays as it is.** -/
theorem uppercase_uppercase (s : String) : uppercase (uppercase s) = uppercase s := by
  have hstays : ∀ l : List Char,
      (∀ d ∈ l, uppercaseChar d = [d]) → l.flatMap uppercaseChar = l := by
    intro l
    induction l with
    | nil => exact fun _ => rfl
    | cons d rest ih =>
      intro h
      obtain ⟨hd, hrest⟩ := List.forall_mem_cons.1 h
      rw [List.flatMap_cons, hd, ih hrest, List.singleton_append]
  unfold uppercase
  rw [String.toList_ofList, hstays]
  intro d hd
  obtain ⟨c, -, hc⟩ := List.mem_flatMap.1 hd
  exact uppercaseChar_of_mem hc

theorem exists_uppercase_eq_iff {s : String} : (∃ t, uppercase t = s) ↔ uppercase s = s := by
  constructor
  · rintro ⟨t, rfl⟩
    exact uppercase_uppercase t
  · exact fun h => ⟨s, h⟩

end CommandLine.Text
