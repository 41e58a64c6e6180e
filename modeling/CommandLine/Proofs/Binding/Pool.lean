import CommandLine.OptionPool

/-!
# The pool after some names have been taken

`OptionPool.without names` is the pool in which every token of the given names has been taken. All
that a later parameter sees of a fresh pool is said in terms of it: taking one more name
(`take_without`), asking for names (`containsAny_without`), and what is left over
(`unconsumed_without`).
-/

namespace CommandLine

namespace OptionToken

/-- The token after every token of the given names has been taken. -/
def markTaken (names : List String) (t : OptionToken) : OptionToken :=
  if t.name ∈ names then { t with taken := true } else t

@[simp] theorem name_markTaken (names : List String) (t : OptionToken) :
    (t.markTaken names).name = t.name := by
  unfold markTaken
  split <;> rfl

@[simp] theorem taken_markTaken (names : List String) (t : OptionToken) :
    (t.markTaken names).taken = (t.taken || decide (t.name ∈ names)) := by
  unfold markTaken
  split <;> simp_all

theorem markTaken_of_notMem {names : List String} {t : OptionToken} (h : t.name ∉ names) :
    t.markTaken names = t := if_neg h

@[simp] theorem markTaken_markTaken (seen names : List String) (t : OptionToken) :
    (t.markTaken seen).markTaken names = t.markTaken (seen ++ names) := by
  unfold markTaken
  by_cases hseen : t.name ∈ seen <;> by_cases hnames : t.name ∈ names <;> simp [hseen, hnames]

end OptionToken

namespace OptionPool

/-- The pool after every token of the given names has been taken. -/
def without (names : List String) (pool : OptionPool) : OptionPool :=
  ⟨pool.tokens.map (·.markTaken names)⟩

/-- Nobody has taken a token. -/
def Fresh (pool : OptionPool) : Prop := ∀ t ∈ pool.tokens, t.taken = false

/-- The last token of the given name. -/
def last? (pool : OptionPool) (name : String) : Option OptionToken :=
  pool.tokens.reverse.find? (·.name == name)

/-- Some token has one of the given names. -/
def Names (pool : OptionPool) (names : List String) : Prop := ∃ t ∈ pool.tokens, t.name ∈ names

instance (pool : OptionPool) (names : List String) : Decidable (pool.Names names) :=
  inferInstanceAs (Decidable (∃ t ∈ pool.tokens, t.name ∈ names))

theorem last?_cons_of_ne {token : OptionToken} {name : String} (h : token.name ≠ name)
    (tokens : List OptionToken) :
    last? ⟨token :: tokens⟩ name = last? ⟨tokens⟩ name := by
  unfold last?
  rw [List.reverse_cons, List.find?_append, List.find?_singleton]
  simp [h]

theorem last?_eq_none {pool : OptionPool} {name : String} (h : ¬ pool.Names [name]) :
    pool.last? name = none := by
  unfold last?
  rw [List.find?_eq_none]
  intro t ht hname
  exact h ⟨t, List.mem_reverse.1 ht, List.mem_singleton.2 (eq_of_beq hname)⟩

theorem names_cons_iff {token : OptionToken} {tokens : List OptionToken} {names : List String} :
    Names ⟨token :: tokens⟩ names ↔ token.name ∈ names ∨ Names ⟨tokens⟩ names := by
  unfold Names
  simp only [List.mem_cons, or_and_right, exists_or, exists_eq_left]

@[simp] theorem without_nil (pool : OptionPool) : pool.without [] = pool := by
  simp [without, OptionToken.markTaken]

@[simp] theorem without_without (pool : OptionPool) (seen names : List String) :
    (pool.without seen).without names = pool.without (seen ++ names) := by
  simp [without]

theorem snd_take (pool : OptionPool) (name : String) :
    (pool.take name).2 = pool.without [name] := by
  simp [take, without, OptionToken.markTaken]

theorem without_congr {names names' : List String} (h : ∀ n, n ∈ names ↔ n ∈ names')
    (pool : OptionPool) : pool.without names = pool.without names' := by
  unfold without OptionToken.markTaken
  simp only [h]

theorem available_take {name other : String} (h : other ≠ name) (pool : OptionPool) :
    (pool.take name).2.available other = pool.available other := by
  obtain ⟨tokens⟩ := pool
  unfold take available
  dsimp only
  induction tokens with
  | nil => rfl
  | cons t rest ih =>
    by_cases hname : t.name = name
    · have hother : t.name ≠ other := fun h' => h (h'.symm.trans hname)
      simp [hname, Ne.symm h, ih]
    · simp [hname, List.filter_cons, ih]

theorem without_append_of_not_names {pool : OptionPool} {names : List String}
    (h : ¬ pool.Names names) (seen : List String) :
    pool.without (seen ++ names) = pool.without seen := by
  unfold without
  congr 1
  refine List.map_congr_left fun t ht => ?_
  have hname : t.name ∉ names := fun hmem => h ⟨t, ht, hmem⟩
  rw [← OptionToken.markTaken_markTaken, OptionToken.markTaken_of_notMem (by simpa using hname)]

theorem available_without {pool : OptionPool} (hfresh : pool.Fresh) {seen : List String}
    {name : String} (hname : name ∉ seen) :
    (pool.without seen).available name = pool.tokens.filter (·.name == name) := by
  obtain ⟨tokens⟩ := pool
  simp only [available, without, List.filter_map]
  rw [List.map_congr_left (g := id) fun t ht => ?_, List.map_id]
  · refine List.filter_congr fun t ht => ?_
    have htaken : t.taken = false := hfresh t ht
    by_cases h : t.name = name
    · simp [htaken, h, hname]
    · simp [h]
  · have hmatch := (List.mem_filter.1 ht).2
    simp only [Function.comp_apply, OptionToken.name_markTaken, Bool.and_eq_true,
      beq_iff_eq] at hmatch
    exact OptionToken.markTaken_of_notMem (hmatch.2 ▸ hname)

/-- A name that has not been taken before gets the last token of that name. -/
theorem take_without {pool : OptionPool} (hfresh : pool.Fresh) {seen : List String} {name : String}
    (hname : name ∉ seen) :
    (pool.without seen).take name = (pool.last? name, pool.without (seen ++ [name])) := by
  refine Prod.ext ?_ ?_
  · show ((pool.without seen).available name).getLast? = pool.last? name
    rw [available_without hfresh hname, last?, ← List.head?_filter, List.filter_reverse,
      List.head?_reverse]
  · rw [← without_without]
    exact snd_take _ name

theorem containsAny_without {pool : OptionPool} (hfresh : pool.Fresh) {seen names : List String}
    (hnames : ∀ n ∈ names, n ∉ seen) :
    (pool.without seen).containsAny names = decide (pool.Names names) := by
  rw [Bool.eq_iff_iff, decide_eq_true_eq]
  simp only [containsAny, without, List.any_map, List.any_eq_true, Function.comp_apply,
    OptionToken.taken_markTaken, OptionToken.name_markTaken, Bool.and_eq_true,
    List.contains_iff_mem]
  constructor
  · rintro ⟨t, ht, -, hname⟩
    exact ⟨t, ht, hname⟩
  · rintro ⟨t, ht, hname⟩
    exact ⟨t, ht, by simp [hfresh t ht, hnames _ hname], hname⟩

/-- What is left over of a fresh pool are the tokens of all other names. -/
theorem unconsumed_without {pool : OptionPool} (hfresh : pool.Fresh) (names : List String) :
    (pool.without names).unconsumed = (pool.tokens.filter (·.name ∉ names)).map (·.raw) := by
  obtain ⟨tokens⟩ := pool
  simp only [unconsumed, without, List.filter_map, List.map_map]
  rw [List.filter_congr (q := fun t => decide (t.name ∉ names)) fun t ht => ?_]
  · refine List.map_congr_left fun t ht => ?_
    have hname : t.name ∉ names := by simpa using (List.mem_filter.1 ht).2
    rw [Function.comp_apply, OptionToken.markTaken_of_notMem hname]
  · have htaken : t.taken = false := hfresh t ht
    simp [htaken]

theorem ensureConsumed_without {pool : OptionPool} (hfresh : pool.Fresh) (names : List String) :
    (pool.without names).ensureConsumed = match pool.tokens.find? (·.name ∉ names) with
      | none => .ok ()
      | some t => .error (.unknownOption t.raw) := by
  unfold ensureConsumed
  rw [unconsumed_without hfresh, ← List.head?_filter]
  cases pool.tokens.filter (·.name ∉ names) <;> rfl

end OptionPool

theorem Partition.fresh_ofArguments (arguments : List String) :
    (Partition.ofArguments arguments).options.Fresh := by
  intro t ht
  induction arguments with
  | nil => cases ht
  | cons token rest ih =>
    rw [ofArguments] at ht
    split at ht
    · cases ht
    · cases hoption : OptionToken.ofToken? token with
      | none =>
        rw [hoption] at ht
        exact ih ht
      | some option =>
        rw [hoption] at ht
        rcases List.mem_cons.1 ht with rfl | ht
        · obtain ⟨body, -, hbody⟩ := Option.map_eq_some_iff.1 hoption
          split at hbody <;> exact hbody ▸ rfl
        · exact ih ht

end CommandLine
