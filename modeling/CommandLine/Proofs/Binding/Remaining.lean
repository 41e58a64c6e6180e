import CommandLine.Binding
import CommandLine.Proofs.Binding.Pool
import CommandLine.Proofs.Fallible

/-!
# What remains of a pool

A token that has been taken is not seen any more. `OptionPool.remaining` is the pool without such
tokens; binding cannot tell it from the pool itself (`settle_parameter`). For a fresh pool, to take
names and to leave out their tokens comes to the same (`remaining_without`).
-/

namespace CommandLine

namespace OptionPool

/-- The tokens that nobody has taken. -/
def remaining (pool : OptionPool) : OptionPool := ⟨pool.tokens.filter fun t => !t.taken⟩

/-- The tokens that have none of the given names. -/
def omitting (names : List String) (pool : OptionPool) : OptionPool :=
  ⟨pool.tokens.filter fun t => t.name ∉ names⟩

variable {pool : OptionPool}

theorem fresh_remaining (pool : OptionPool) : pool.remaining.Fresh := by
  intro t ht
  simpa using (List.mem_filter.1 ht).2

theorem Fresh.omitting (h : pool.Fresh) (names : List String) : (pool.omitting names).Fresh :=
  fun t ht => h t (List.mem_filter.1 ht).1

theorem Fresh.remaining_eq (h : pool.Fresh) : pool.remaining = pool := by
  unfold remaining
  rw [List.filter_eq_self.2 fun t ht => by simp [h t ht]]

@[simp] theorem remaining_remaining (pool : OptionPool) :
    pool.remaining.remaining = pool.remaining :=
  pool.fresh_remaining.remaining_eq

@[simp] theorem omitting_nil (pool : OptionPool) : pool.omitting [] = pool := by
  unfold omitting
  rw [List.filter_eq_self.2 fun t _ => by simp]

@[simp] theorem omitting_omitting (pool : OptionPool) (names names' : List String) :
    (pool.omitting names).omitting names' = pool.omitting (names ++ names') := by
  unfold omitting
  simp [List.filter_filter, Bool.and_comm]

/-- To take names of a fresh pool is to omit them. -/
theorem remaining_without (h : pool.Fresh) (names : List String) :
    (pool.without names).remaining = pool.omitting names := by
  unfold remaining without omitting
  rw [List.filter_map]
  have hkept : pool.tokens.filter ((fun t => !t.taken) ∘ (·.markTaken names)) =
      pool.tokens.filter fun t => t.name ∉ names := by
    refine List.filter_congr fun t ht => ?_
    simp [h t ht]
  rw [hkept, List.map_congr_left (g := id) fun t ht => ?_, List.map_id]
  exact OptionToken.markTaken_of_notMem (by simpa using (List.mem_filter.1 ht).2)

@[simp] theorem available_remaining (pool : OptionPool) (name : String) :
    pool.remaining.available name = pool.available name := by
  unfold available remaining
  rw [List.filter_filter]
  refine List.filter_congr fun t _ => ?_
  cases t.taken <;> simp

theorem take_fst_remaining (pool : OptionPool) (name : String) :
    (pool.remaining.take name).1 = (pool.take name).1 :=
  congrArg List.getLast? (available_remaining pool name)

theorem remaining_take (pool : OptionPool) (name : String) :
    (pool.take name).2.remaining = pool.remaining.omitting [name] := by
  unfold take remaining omitting
  dsimp only
  rw [List.filter_map, List.filter_filter]
  have hkept : pool.tokens.filter ((fun t => !t.taken) ∘
        fun t => if t.name = name then { t with taken := true } else t) =
      pool.tokens.filter fun t => decide (t.name ∉ [name]) && !t.taken := by
    refine List.filter_congr fun t _ => ?_
    by_cases hname : t.name = name <;> simp [hname]
  rw [hkept, List.map_congr_left (g := id) fun t ht => ?_, List.map_id]
  have hname : t.name ≠ name := by
    intro hname
    simpa [hname] using (List.mem_filter.1 ht).2
  exact if_neg hname

@[simp] theorem containsAny_remaining (pool : OptionPool) (names : List String) :
    pool.remaining.containsAny names = pool.containsAny names := by
  unfold containsAny remaining
  rw [List.any_filter]
  congr 1
  funext t
  cases t.taken <;> simp

theorem ensureConsumed_remaining (pool : OptionPool) :
    pool.remaining.ensureConsumed = pool.ensureConsumed := by
  have hleft : pool.remaining.unconsumed = pool.unconsumed :=
    congrArg (fun p : OptionPool => p.tokens.map OptionToken.raw) pool.remaining_remaining
  unfold ensureConsumed
  rw [hleft]

/-- An omitted name has no token, and the others have theirs. -/
theorem last?_omitting (pool : OptionPool) (names : List String) (name : String) :
    (pool.omitting names).last? name = if name ∈ names then none else pool.last? name := by
  unfold last? omitting
  rw [← List.filter_reverse, List.find?_filter]
  by_cases hname : name ∈ names
  · rw [if_pos hname, List.find?_eq_none]
    intro t _ hfound
    simp only [beq_iff_eq, decide_eq_true_eq] at hfound
    exact hfound.1 (hfound.2 ▸ hname)
  · rw [if_neg hname]
    congr 1
    funext t
    by_cases hsame : t.name = name
    · simp [hsame, hname]
    · simp [hsame]

theorem names_omitting_iff {omitted names : List String} :
    (pool.omitting omitted).Names names ↔
      ∃ t ∈ pool.tokens, t.name ∈ names ∧ t.name ∉ omitted := by
  unfold Names omitting
  simp only [List.mem_filter, decide_eq_true_eq]
  exact exists_congr fun t => and_assoc.trans (and_congr_right fun _ => and_comm)

theorem ensureConsumed_omitting_eq_ok_iff (h : pool.Fresh) {names : List String} :
    (pool.omitting names).ensureConsumed = .ok () ↔ ∀ t ∈ pool.tokens, t.name ∈ names := by
  rw [← remaining_without h, ensureConsumed_remaining, ensureConsumed_without h]
  cases hfound : pool.tokens.find? (·.name ∉ names) with
  | none => simpa using hfound
  | some t =>
    have hname := List.find?_some hfound
    simp only [reduceCtorEq, false_iff]
    intro hall
    simp [hall t (List.mem_of_find?_eq_some hfound)] at hname

end OptionPool

/-- The supply with the tokens that nobody has taken. -/
def Supply.remaining (s : Supply) : Supply := { s with options := s.options.remaining }

namespace Binder

open Parameter

variable {b : Binder}

/-! ## Binding sees what remains -/

/-- What is bound, and what remains then. -/
def settle {α : Type} (x : Except Fault (α × Supply)) : Except Fault (α × Supply) :=
  x.map fun r => (r.1, r.2.remaining)

/-- What is made of the values alone does not change what remains. -/
theorem settle_map {α β : Type} {x y : Except Fault (α × Supply)} (h : settle x = settle y)
    (f : α → β) :
    settle (x.map fun r => (f r.1, r.2)) = settle (y.map fun r => (f r.1, r.2)) := by
  have hmap : ∀ z : Except Fault (α × Supply),
      settle (z.map fun r => (f r.1, r.2)) = (settle z).map fun r => (f r.1, r.2) := by
    intro z
    cases z <;> rfl
  rw [hmap, hmap, h]

mutual

/-- A parameter is bound alike to a supply and to what remains of it. -/
theorem settle_parameter (b : Binder) (p : Parameter) (index : Nat) (s : Supply) :
    settle (b.parameter index p s.remaining) = settle (b.parameter index p s) := by
  match p with
  | .plain a type =>
    rw [parameter, parameter]
    show settle ((b.plain a type index s.positionals.head?).map _) = _
    cases b.plain a type index s.positionals.head? with
    | error fault => rfl
    | ok value =>
      simp only [settle, Except.map, Supply.remaining, OptionPool.remaining_remaining]
  | .option a type =>
    rw [parameter, parameter]
    dsimp only [Supply.remaining]
    rw [OptionPool.take_fst_remaining]
    cases b.option a type (s.options.take a.name).1 with
    | error fault => rfl
    | ok value =>
      simp only [settle, Except.map, Supply.remaining, OptionPool.remaining_take,
        OptionPool.remaining_remaining]
  | .bean a type members =>
    have hcontains : s.remaining.options.containsAny (optionNamesOfAll members) =
        s.options.containsAny (optionNamesOfAll members) := OptionPool.containsAny_remaining _ _
    rw [parameter, parameter, hcontains]
    split
    · simp only [settle, Except.map, Supply.remaining, OptionPool.remaining_remaining]
    · exact settle_map (settle_parameters b members 0 s) fun values =>
        Value.bean type ((members.map (·.name)).zip values)
  | .internal a =>
    rw [parameter, parameter]
    simp only [settle, Except.map, Supply.remaining, OptionPool.remaining_remaining]

theorem settle_parameters (b : Binder) (l : List Parameter) (index : Nat) (s : Supply) :
    settle (b.parameters index l s.remaining) = settle (b.parameters index l s) := by
  match l with
  | [] =>
    rw [parameters, parameters]
    simp only [settle, Except.map, Supply.remaining, OptionPool.remaining_remaining]
  | p :: rest =>
    rw [parameters, parameters]
    obtain ⟨fault, hp', hp⟩ | ⟨⟨value', left'⟩, ⟨value, left⟩, hp', hp, hsame⟩ :=
      Except.cases_of_map_eq_map (settle_parameter b p index s)
    · rw [hp', hp]
    · -- the two walks go on with different supplies, of which the same remains
      obtain ⟨rfl, hleft⟩ : value' = value ∧ left'.remaining = left.remaining :=
        Prod.mk.inj hsame
      have hrest : settle (b.parameters (index + 1) rest left') =
          settle (b.parameters (index + 1) rest left) := by
        rw [← settle_parameters b rest (index + 1) left', hleft, settle_parameters b rest]
      rw [hp', hp]
      exact settle_map hrest fun others => value' :: others

end

end Binder

end CommandLine
