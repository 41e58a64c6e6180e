import CommandLine.Proofs.Substitution.Steps
import Mathlib.Algebra.Ring.Nat
import Mathlib.Data.List.Perm.Subperm

/-!
# Substitution ends

The steps of an expansion come to an end with the outcome that `expand` gives
(`leads_expand`, along the recursion of `expand`). `substitute_ends`: this holds of every text and
all tables, and at no time are more names open than the tables have entries.
-/

namespace CommandLine

/-! ## The number of entries -/

/-- The number of entries in all layers. -/
def Properties.entries (p : Properties) : Nat := (p.layers.map (·.size)).sum

/-- The number of entries in all tables. -/
def Resolver.entries (r : Resolver) : Nat :=
  (r.contexts.map (·.2.entries)).sum + r.defaults.entries

theorem Properties.length_names (p : Properties) : p.names.length = p.entries := by
  rw [names, List.length_flatMap, entries]
  simp only [Std.TreeMap.length_keys]

theorem Resolver.length_names (r : Resolver) : r.names.length = r.entries := by
  rw [names, List.length_append, List.length_flatMap, entries]
  simp only [List.length_map, Properties.length_names]

namespace Expansion

variable {r : Resolver}

/-- No more names are open than the tables have entries. -/
theorem Orderly.length_openNames_le {m : Moment} (h : Orderly r m) :
    m.openNames.length ≤ r.entries := by
  have hsubset : m.openNames ⊆ r.names := by
    intro name hname
    obtain ⟨text, hlookup⟩ := h.bound name hname
    exact Resolver.mem_names_of_lookup hlookup
  rw [← r.length_names]
  exact (List.subperm_of_subset h.nodup hsubset).length_le

theorem Orderly.outcome_cases {outcome : Except Fault (Option (List Char))}
    (h : Orderly r (.done outcome)) :
    (∃ value, outcome = .ok (some value)) ∨ outcome = .ok none ∨
      ∃ chain, outcome = .error (.cyclicSubstitution chain) := by
  rcases outcome with fault | _ | value
  · obtain ⟨chain, rfl⟩ := h.cycle fault rfl
    exact .inr (.inr ⟨chain, rfl⟩)
  · exact .inr (.inl rfl)
  · exact .inl ⟨value, rfl⟩

/-! ## Runs -/

/-- Some steps lead from one moment to the other. -/
def Leads (r : Resolver) (m m' : Moment) : Prop := ∃ n, (step r)^[n] m = m'

theorem Leads.refl (m : Moment) : Leads r m m := ⟨0, rfl⟩

theorem Leads.trans {m m' m'' : Moment} (h : Leads r m m') (h' : Leads r m' m'') :
    Leads r m m'' := by
  obtain ⟨n, rfl⟩ := h
  obtain ⟨n', rfl⟩ := h'
  exact ⟨n' + n, Function.iterate_add_apply ..⟩

theorem Leads.of_step {m m' : Moment} (h : Leads r (step r m) m') : Leads r m m' := by
  obtain ⟨n, rfl⟩ := h
  exact ⟨n + 1, rfl⟩

/-! ## The steps of each part

The recursion is that of `expand`: a stored text has one more open name, all else is shorter. -/

theorem pieces_cases (text : List Char) :
    text = [] ∨ (∃ rest, text = '\\' :: '$' :: '{' :: rest) ∨ (∃ rest, text = '$' :: '{' :: rest) ∨
      ∃ c rest, text = c :: rest ∧ (∀ s, c :: rest ≠ '$' :: '{' :: s) ∧
        ∀ s, c :: rest ≠ '\\' :: '$' :: '{' :: s := by
  cases text with
  | nil => exact .inl rfl
  | cons c rest =>
    by_cases hescape : ∃ s, c :: rest = '\\' :: '$' :: '{' :: s
    · exact .inr (.inl hescape)
    by_cases hreference : ∃ s, c :: rest = '$' :: '{' :: s
    · exact .inr (.inr (.inl hreference))
    · exact .inr (.inr (.inr ⟨c, rest, rfl, not_exists.1 hreference, not_exists.1 hescape⟩))

theorem scan_cons {c : Char} {rest : List Char} (hreference : ∀ s, c :: rest ≠ '$' :: '{' :: s)
    (hescape : ∀ s, c :: rest ≠ '\\' :: '$' :: '{' :: s) (out : List Char) (frames : List Frame) :
    scan out frames (c :: rest) = ⟨.pieces (out ++ [c]) rest, frames⟩ := by
  rw [scan]
  · rintro s rfl rfl
    exact hescape s rfl
  · rintro s rfl rfl
    exact hreference s rfl

theorem map_prepend (out front : List Char) (pieces : Except Fault (List Char)) :
    (pieces.map (front ++ ·)).map (fun text => some (out ++ text))
      = pieces.map fun text => some (out ++ front ++ text) := by
  cases pieces with
  | error fault => rfl
  | ok text => simp [Except.map]

mutual

/-- The steps of a text lead to what `expand` gives for it while the names of the frames are in
progress. -/
theorem leads_expand (frames : List Frame) (text : List Char) :
    Leads r ⟨.text text, frames⟩ ⟨.outcome (r.expand (namesOf frames) text), frames⟩ := by
  refine .of_step ?_
  rw [Resolver.expand_eq]
  unfold step
  dsimp only
  cases h : Reference.whole? text with
  | some body => exact leads_resolve frames body
  | none =>
    have hpieces := leads_expandPieces frames [] text
    simpa using hpieces
termination_by ((r.idleNames (namesOf frames)).length, text.length, 1)
decreasing_by
  · exact .right _ (.right _ (by omega))
  · have := congrArg List.length (Reference.eq_write_of_whole? h)
    simp [Reference.write] at this
    exact .right _ (.left _ _ (by omega))

theorem leads_expandPieces (frames : List Frame) (out rest : List Char) :
    Leads r ⟨.pieces out rest, frames⟩
      ⟨.outcome ((r.expandPieces (namesOf frames) rest).map fun text => some (out ++ text)),
        frames⟩ := by
  refine .of_step ?_
  show Leads r (scan out frames rest) _
  obtain rfl | ⟨rest', hrest⟩ | ⟨rest', hrest⟩ | ⟨c, rest', hrest, hreference, hescape⟩ :=
    pieces_cases rest
  · rw [Resolver.expandPieces_nil, Except.map, List.append_nil]
    exact .refl _
  · rw [hrest, Resolver.expandPieces_escape, map_prepend]
    exact leads_expandPieces frames (out ++ ['$', '{']) rest'
  · rw [hrest, scan]
    cases h : Reference.close? 0 rest' with
    | none =>
      rw [Resolver.expandPieces_unclosed h]
      exact .refl _
    | some bodyAfter =>
      obtain ⟨body, after⟩ := bodyAfter
      have hresolve := leads_resolve (.pieces out body after :: frames) body
      rw [namesOf_pieces] at hresolve
      refine hresolve.trans (.of_step ?_)
      rw [Resolver.expandPieces_reference h]
      rcases r.resolve (namesOf frames) body with fault | value?
      · exact .refl _
      · rw [Except.bind, map_prepend]
        exact leads_expandPieces frames (out ++ value?.getD (Reference.write body)) after
  · rw [hrest, Resolver.expandPieces_cons hreference hescape, scan_cons hreference hescape]
    show Leads r _ ⟨.outcome (((r.expandPieces (namesOf frames) rest').map ([c] ++ ·)).map _), _⟩
    rw [map_prepend]
    exact leads_expandPieces frames (out ++ [c]) rest'
termination_by ((r.idleNames (namesOf frames)).length, rest.length, 0)
decreasing_by
  · exact .right _ (.left _ _ (by simp [hrest]; omega))
  · have := Reference.length_of_close? h
    rw [namesOf_pieces]
    exact .right _ (.left _ _ (by simp [hrest]; omega))
  · have := Reference.length_of_close? h
    exact .right _ (.left _ _ (by simp [hrest]; omega))
  · exact .right _ (.left _ _ (by simp [hrest]))

theorem leads_resolve (frames : List Frame) (body : List Char) :
    Leads r ⟨.reference body, frames⟩ ⟨.outcome (r.resolve (namesOf frames) body), frames⟩ := by
  refine .of_step ?_
  show Leads r (enter r body frames) _
  have hfallback : Leads r ⟨.fallback (Reference.fallback? body), frames⟩
      ⟨.outcome (match Reference.fallback? body with
        | some fallback => r.expand (namesOf frames) fallback
        | none => .ok none), frames⟩ := by
    refine .of_step ?_
    cases h : Reference.fallback? body with
    | none => exact .refl _
    | some fallback => exact leads_expand frames fallback
  rw [Resolver.resolve_eq]
  unfold enter
  by_cases hname : Reference.name body ∈ namesOf frames
  · rw [if_pos hname, if_pos hname]
    exact .refl _
  · rw [if_neg hname, if_neg hname]
    cases hlookup : r.lookup (Reference.name body) with
    | none => exact hfallback
    | some text =>
      have hstored := leads_expand
        (.stored (Reference.name body) (Reference.fallback? body) :: frames) text.toList
      refine hstored.trans (.of_step ?_)
      rw [namesOf_stored]
      dsimp only
      -- the name is not open any more
      rcases r.expand (namesOf frames ++ [Reference.name body]) text.toList with
        fault | _ | value
      · exact .refl _
      · exact hfallback
      · exact .refl _
termination_by ((r.idleNames (namesOf frames)).length, body.length, 2)
decreasing_by
  -- the inline default is shorter; of the names, one more is in progress
  · exact .right _ (.left _ _ (Reference.length_of_fallback? h))
  · exact .left _ _ (Resolver.idleNames_length_lt hname (Resolver.mem_names_of_lookup hlookup))

end

end Expansion

namespace Resolver

/-- Nothing but a cycle makes a substitution fail. -/
theorem fault_of_substitute {r : Resolver} {text : String} {fault : Fault}
    (h : r.substitute text = .error fault) : ∃ chain, fault = .cyclicSubstitution chain := by
  have hexpand : r.expand [] text.toList = .error fault := by
    unfold substitute at h
    cases hexpand : r.expand [] text.toList with
    | error other => simpa [hexpand, Except.map] using h
    | ok value => simp [hexpand, Except.map] at h
  obtain ⟨n, hn⟩ := Expansion.leads_expand (r := r) [] text.toList
  have hdone : Expansion.after r text n = .done (.error fault) := hexpand ▸ hn
  have horderly := Expansion.orderly_after r text n
  exact horderly.cycle fault (congrArg Expansion.Moment.work hdone)

/-- **Substitution ends.** The steps of the expansion come to an end, and what they end with is what
`substitute` gives: a text, none, or a cycle. At all times the open names differ from each other
and have stored texts, so that no more of them are open than the tables have entries. -/
theorem substitute_ends (r : Resolver) (text : String) :
    (∃ n outcome, (∀ m ≥ n, Expansion.after r text m = .done outcome) ∧
      r.substitute text = outcome.map (·.map String.ofList) ∧
      ((∃ value, outcome = .ok (some value)) ∨ outcome = .ok none ∨
        ∃ chain, outcome = .error (.cyclicSubstitution chain))) ∧
    ∀ n, (Expansion.after r text n).openNames.Nodup ∧
      (∀ name ∈ (Expansion.after r text n).openNames, ∃ stored, r.lookup name = some stored) ∧
      (Expansion.after r text n).openNames.length ≤ r.entries := by
  constructor
  · obtain ⟨n, hn⟩ := Expansion.leads_expand (r := r) [] text.toList
    have hdone : Expansion.after r text n = .done (r.expand [] text.toList) := hn
    have horderly := Expansion.orderly_after r text n
    rw [hdone] at horderly
    exact ⟨n, _, fun m hle => Expansion.after_of_le hdone hle, rfl, horderly.outcome_cases⟩
  · intro n
    have horderly := Expansion.orderly_after r text n
    exact ⟨horderly.nodup, horderly.bound, horderly.length_openNames_le⟩

end Resolver

end CommandLine
