import CommandLine.Proofs.Chain.Meaning
import CommandLine.Proofs.Shortage

/-!
# Chains of stock interceptors

A command may refer to interceptors that are not in stock. `supplied_start`: a chain has no shortage
if all references are in stock. `start_of_late`: a chain in which one is not fails, whatever comes
before it, unless that is a dry run, which never proceeds.
-/

namespace CommandLine

namespace Interceptors

theorem find?_eq_none_iff {t : Interceptors} {name : String} :
    t.find? name = none ↔ t.contains name = false := by
  simp [find?, contains, ← Bool.not_eq_true]

theorem cases_of_find?_stock {name : String} {interceptor : Interceptor}
    (h : stock.find? name = some interceptor) :
    interceptor = .passThrough ∨ name = "dry-run" ∧ interceptor = .dryRun := by
  have hstock : stock = ((∅ : Interceptors).register "trace" .passThrough |>.register "dry-run"
      .dryRun) := rfl
  rw [hstock, find?_register, find?_register, find?_empty] at h
  split at h
  · rename_i hname
    cases h
    exact .inr ⟨hname.symm, rfl⟩
  · split at h
    · cases h
      exact .inl rfl
    · cases h

end Interceptors

namespace Chain

/-- The chain of a command without interceptors of its own. -/
def ofStock (c : Command) : Chain := { command := c, interceptors := .stock }

variable {c : Command}

theorem handler?_ofStock (reference : String) :
    (ofStock c).handler? reference = Interceptors.stock.find? reference := by
  rw [handler?_eq_find?, find?]
  simp [ofStock]

theorem neverRestarts_ofStock (c : Command) : (ofStock c).NeverRestarts := by
  intro reference interceptor hfound
  rw [handler?_ofStock] at hfound
  obtain rfl | ⟨-, rfl⟩ := Interceptors.cases_of_find?_stock hfound
  · exact fun _ => trivial
  · exact fun _ => trivial

theorem start_ofStock (c : Command) (arguments : List Value) :
    ((ofStock c).start arguments).1 =
      ((ofStock c).run (neverRestarts_ofStock c) 0 c.interceptors ⟨arguments, []⟩).1 := by
  have hdepth : c.interceptors.length < (ofStock c).depthLimit := by
    have : c.interceptors.length + 1 ≤ (restartLimit + 1) * (c.interceptors.length + 1) :=
      Nat.le_mul_of_pos_left _ (Nat.succ_pos _)
    exact this
  exact congrArg Prod.fst (enter_at (ofStock c) (neverRestarts_ofStock c) List.drop_zero
    hdepth ⟨arguments, []⟩)

/-- A stock interceptor answers without what comes after it, or as that does. -/
theorem run_ofStock_cons {reference : String} {interceptor : Interceptor}
    (h : Interceptors.stock.find? reference = some interceptor) (stage : Nat)
    (rest : List String) (s : Shared) :
    (reference = "dry-run" ∧ ∃ value,
      ((ofStock c).run (neverRestarts_ofStock c) stage (reference :: rest) s).1 = .ok value) ∨
    ∃ s', ((ofStock c).run (neverRestarts_ofStock c) stage (reference :: rest) s).1 =
      ((ofStock c).run (neverRestarts_ofStock c) (stage + 1) rest s').1 := by
  have hfound : (ofStock c).handler? reference = some interceptor := by rw [handler?_ofStock, h]
  rw [run_of_some (neverRestarts_ofStock c) hfound]
  obtain rfl | ⟨hname, rfl⟩ := Interceptors.cases_of_find?_stock h
  · exact .inr ⟨_, rfl⟩
  · exact .inl ⟨hname, _, rfl⟩

theorem run_ofStock_of_none {reference : String} (h : Interceptors.stock.find? reference = none)
    (stage : Nat) (rest : List String) (s : Shared) :
    ((ofStock c).run (neverRestarts_ofStock c) stage (reference :: rest) s).1
      = .error (.unresolvedInterceptor c.name reference) := by
  have hnone : (ofStock c).handler? reference = none := by rw [handler?_ofStock, h]
  rw [run_of_none (neverRestarts_ofStock c) hnone]
  rfl

theorem supplied_target (haction : ∀ arguments fault,
    (c.action arguments).result ≠ .error (.fault fault)) (s : Shared) :
    Supplied (target c s).1 := by
  unfold target
  dsimp only
  split
  · exact .ok _
  · rename_i fault hfault
    exact absurd hfault (haction _ _)
  · exact .error rfl

theorem supplied_run (hstock : ∀ arguments fault,
      (c.action arguments).result ≠ .error (.fault fault)) {references : List String}
    (h : ∀ reference ∈ references, Interceptors.stock.contains reference) (stage : Nat)
    (s : Shared) :
    Supplied ((ofStock c).run (neverRestarts_ofStock c) stage references s).1 := by
  induction references generalizing stage s with
  | nil => exact supplied_target hstock s
  | cons reference rest ih =>
    cases hfound : Interceptors.stock.find? reference with
    | none =>
      rw [Interceptors.find?_eq_none_iff, h reference (by simp)] at hfound
      cases hfound
    | some interceptor =>
      obtain ⟨-, value, hvalue⟩ | ⟨s', hrest⟩ := run_ofStock_cons (c := c) hfound stage rest s
      · rw [hvalue]
        exact .ok value
      · rw [hrest]
        exact ih (fun other hother => h other (by simp [hother])) (stage + 1) s'

theorem supplied_start (haction : ∀ arguments fault,
      (c.action arguments).result ≠ .error (.fault fault))
    (h : ∀ reference ∈ c.interceptors, Interceptors.stock.contains reference)
    (arguments : List Value) : Supplied ((ofStock c).start arguments).1 := by
  rw [start_ofStock]
  exact supplied_run haction h 0 _

theorem run_of_late {references : List String} {k : Nat} {reference : String}
    (hreference : references[k]? = some reference)
    (hlate : Interceptors.stock.contains reference = false)
    (hearlier : "dry-run" ∉ references.take k) (stage : Nat) (s : Shared) (value : Value) :
    ((ofStock c).run (neverRestarts_ofStock c) stage references s).1 ≠ .ok value := by
  induction references generalizing k stage s with
  | nil => simp at hreference
  | cons first rest ih =>
    intro hok
    cases hfound : Interceptors.stock.find? first with
    | none =>
      rw [run_ofStock_of_none hfound] at hok
      cases hok
    | some interceptor =>
      cases k with
      | zero =>
        obtain rfl : first = reference := by simpa using hreference
        rw [Interceptors.find?_eq_none_iff.2 hlate] at hfound
        cases hfound
      | succ k =>
        rw [List.take_succ_cons, List.mem_cons, not_or] at hearlier
        obtain ⟨rfl, -⟩ | ⟨s', hrest⟩ := run_ofStock_cons (c := c) hfound stage rest s
        · exact hearlier.1 rfl
        · exact ih (by simpa using hreference) hearlier.2 (stage + 1) s' (hrest ▸ hok)

/-- A chain does not succeed past a reference that is not in stock, if no dry run comes before. -/
theorem start_of_late {k : Nat} {reference : String}
    (hreference : c.interceptors[k]? = some reference)
    (hlate : Interceptors.stock.contains reference = false)
    (hearlier : "dry-run" ∉ c.interceptors.take k) (arguments : List Value) (value : Value) :
    ((ofStock c).start arguments).1 ≠ .ok value := by
  rw [start_ofStock]
  exact run_of_late hreference hlate hearlier 0 _ value

end Chain

end CommandLine
