import CommandLine.Expansion

/-!
# Two scans of a body

The end of a body is found by one scan and its inline default by another, and each counts the nested
references that are open. `nesting?` is the count of the first, by which a body ends at the first
brace that closes nothing nested (`close?_eq_some_iff`); `nestingOfCut` is that of the second, which
cuts at the first `:-` where it is zero (`cut_eq_some_iff`). The second scan takes an escaped
opening for an opening. So inside of a body it counts one reference more for each escape that it has
passed (`nestingOfCut_eq`), and it cuts where the first scan would, unless an escape stands in front
of that (`cut_exact`).
-/

namespace CommandLine.Reference

/-! ## Counts -/

/-- How many nested references are open behind a text to the search for the closing brace, if
`depth` are open in front of it; none if that brace is in the text. -/
def nesting? : Nat → List Char → Option Nat
  | depth, [] => some depth
  | depth, '\\' :: '$' :: '{' :: rest => nesting? depth rest
  | depth, '$' :: '{' :: rest => nesting? (depth + 1) rest
  | 0, '}' :: _ => none
  | depth + 1, '}' :: rest => nesting? depth rest
  | depth, _ :: rest => nesting? depth rest

/-- How many are open to the search for the inline default, which knows no escapes. -/
def nestingOfCut : Nat → List Char → Nat
  | depth, [] => depth
  | depth, '$' :: '{' :: rest => nestingOfCut (depth + 1) rest
  | depth, '}' :: rest => nestingOfCut (depth - 1) rest
  | depth, _ :: rest => nestingOfCut depth rest

/-- How many openings in the text are escaped. -/
def escapes : List Char → Nat
  | [] => 0
  | '\\' :: '$' :: '{' :: rest => escapes rest + 1
  | _ :: rest => escapes rest

/-- The character opens and closes nothing, and escapes no opening, with this text behind it. -/
structure Plain (c : Char) (rest : List Char) : Prop where
  not_escape : c = '\\' → ∀ s, rest ≠ '$' :: '{' :: s
  not_opening : c = '$' → ∀ s, rest ≠ '{' :: s
  not_closing : c ≠ '}'

/-- No opening and no escape goes on with the character. -/
def Severs (c : Char) : Prop := c ≠ '$' ∧ c ≠ '{'

instance (c : Char) : Decidable (Severs c) := inferInstanceAs (Decidable (c ≠ '$' ∧ c ≠ '{'))

theorem severs_brace : Severs '}' := by decide

theorem severs_colon : Severs ':' := by decide

namespace Plain

variable {c sep : Char} {front rest : List Char}

theorem of_depth {depth : Nat} (hescape : ∀ s, c = '\\' → rest = '$' :: '{' :: s → False)
    (hopening : ∀ s, c = '$' → rest = '{' :: s → False) (hclosed : depth = 0 → c = '}' → False)
    (hclosing : ∀ n : Nat, depth = n.succ → c = '}' → False) : Plain c rest := by
  refine ⟨fun hc s => hescape s hc, fun hc s => hopening s hc, ?_⟩
  cases depth with
  | zero => exact hclosed rfl
  | succ n => exact hclosing n rfl

theorem append_iff (hsep : Severs sep) : Plain c (front ++ sep :: rest) ↔ Plain c front := by
  have hopening : (∀ s, front ++ sep :: rest ≠ '{' :: s) ↔ ∀ s, front ≠ '{' :: s := by
    cases front <;> simp [hsep.2]
  have hescape : (∀ s, front ++ sep :: rest ≠ '$' :: '{' :: s) ↔ ∀ s, front ≠ '$' :: '{' :: s := by
    rcases front with _ | ⟨a, _ | ⟨b, front⟩⟩ <;> simp [hsep.1, hsep.2]
  constructor
  · intro h
    exact ⟨fun hc => hescape.1 (h.not_escape hc), fun hc => hopening.1 (h.not_opening hc),
      h.not_closing⟩
  · intro h
    exact ⟨fun hc => hescape.2 (h.not_escape hc), fun hc => hopening.2 (h.not_opening hc),
      h.not_closing⟩

theorem close?_eq (h : Plain c rest) (depth : Nat) :
    close? depth (c :: rest) = prepend [c] (close? depth rest) := by
  rw [close?]
  · exact fun s hc => h.not_escape hc s
  · exact fun s hc => h.not_opening hc s
  · exact fun _ => h.not_closing
  · exact fun _ _ => h.not_closing

theorem nesting?_eq (h : Plain c rest) (depth : Nat) :
    nesting? depth (c :: rest) = nesting? depth rest := by
  rw [nesting?]
  · exact fun s hc => h.not_escape hc s
  · exact fun s hc => h.not_opening hc s
  · exact fun _ => h.not_closing
  · exact fun _ _ => h.not_closing

theorem nestingOfCut_eq (h : Plain c rest) (depth : Nat) :
    nestingOfCut depth (c :: rest) = nestingOfCut depth rest := by
  rw [nestingOfCut]
  · exact fun s hc => h.not_opening hc s
  · exact h.not_closing

theorem escapes_eq (h : Plain c rest) : escapes (c :: rest) = escapes rest := by
  rw [escapes]
  exact fun s hc => h.not_escape hc s

end Plain

/-! ## The end of a body -/

/-- A count can be broken off and taken up again in front of a character that severs. -/
theorem nesting?_append {sep : Char} (hsep : Severs sep) (depth : Nat) (front rest : List Char) :
    nesting? depth (front ++ sep :: rest) =
      (nesting? depth front).bind fun nested => nesting? nested (sep :: rest) := by
  fun_induction nesting? depth front with
  | case1 depth => rfl
  | case2 depth front ih => exact ih
  | case3 depth front ih => exact ih
  | case4 front => rfl
  | case5 depth front ih => exact ih
  | case6 depth c front hescape hopening hclosed hclosing ih =>
    have hplain := Plain.of_depth hescape hopening hclosed hclosing
    rw [List.cons_append, ((Plain.append_iff hsep).2 hplain).nesting?_eq, ih]

theorem nesting?_of_close? {depth : Nat} {text body after : List Char}
    (h : close? depth text = some (body, after)) : nesting? depth body = some 0 := by
  fun_induction close? depth text generalizing body with
  | case1 depth => cases h
  | case2 depth rest ih =>
    obtain ⟨⟨body, after⟩, hrest, ⟨⟩⟩ := Option.map_eq_some_iff.1 h
    exact (ih hrest :)
  | case3 depth rest ih =>
    obtain ⟨⟨body, after⟩, hrest, ⟨⟩⟩ := Option.map_eq_some_iff.1 h
    exact (ih hrest :)
  | case4 rest =>
    cases h
    rfl
  | case5 depth rest ih =>
    obtain ⟨⟨body, after⟩, hrest, ⟨⟩⟩ := Option.map_eq_some_iff.1 h
    exact (ih hrest :)
  | case6 depth c rest hescape hopening hclosed hclosing ih =>
    obtain ⟨⟨body, after⟩, hrest, ⟨⟩⟩ := Option.map_eq_some_iff.1 h
    have hplain := Plain.of_depth hescape hopening hclosed hclosing
    rw [eq_of_close? hrest, Plain.append_iff severs_brace] at hplain
    have hbody := ih hrest
    rwa [← hplain.nesting?_eq] at hbody

theorem close?_of_nesting? {depth : Nat} {body : List Char} (h : nesting? depth body = some 0)
    (after : List Char) : close? depth (body ++ '}' :: after) = some (body, after) := by
  fun_induction nesting? depth body with
  | case1 depth =>
    cases h
    rfl
  | case2 depth rest ih =>
    rw [List.cons_append, List.cons_append, List.cons_append, close?, ih h]
    rfl
  | case3 depth rest ih =>
    rw [List.cons_append, List.cons_append, close?, ih h]
    rfl
  | case4 rest => cases h
  | case5 depth rest ih =>
    rw [List.cons_append, close?, ih h]
    rfl
  | case6 depth c rest hescape hopening hclosed hclosing ih =>
    have hplain := Plain.of_depth hescape hopening hclosed hclosing
    rw [List.cons_append, ((Plain.append_iff severs_brace).2 hplain).close?_eq, ih h]
    rfl

theorem close?_eq_some_iff {depth : Nat} {text body after : List Char} :
    close? depth text = some (body, after) ↔
      text = body ++ '}' :: after ∧ nesting? depth body = some 0 := by
  constructor
  · exact fun h => ⟨eq_of_close? h, nesting?_of_close? h⟩
  · rintro ⟨rfl, h⟩
    exact close?_of_nesting? h after

/-! ## The counts compared -/

/-- Where nothing but nested references has been closed, the second count is the first, and one more
for each escape. -/
theorem nestingOfCut_eq {depth nested : Nat} {front : List Char}
    (h : nesting? depth front = some nested) (extra : Nat) :
    nestingOfCut (depth + extra) front = nested + extra + escapes front := by
  fun_induction nesting? depth front generalizing extra with
  | case1 depth =>
    cases h
    rfl
  | case2 depth rest ih =>
    calc nestingOfCut (depth + extra) ('\\' :: '$' :: '{' :: rest)
        = nestingOfCut (depth + (extra + 1)) rest := rfl
      _ = nested + (extra + 1) + escapes rest := ih h (extra + 1)
      _ = nested + extra + escapes ('\\' :: '$' :: '{' :: rest) := by rw [escapes]; omega
  | case3 depth rest ih =>
    calc nestingOfCut (depth + extra) ('$' :: '{' :: rest)
        = nestingOfCut (depth + 1 + extra) rest := by rw [nestingOfCut, Nat.add_right_comm]
      _ = nested + extra + escapes ('$' :: '{' :: rest) := ih h extra
  | case4 rest => cases h
  | case5 depth rest ih =>
    calc nestingOfCut (depth + 1 + extra) ('}' :: rest)
        = nestingOfCut (depth + extra) rest := by
          rw [nestingOfCut, Nat.add_right_comm, Nat.add_sub_cancel]
      _ = nested + extra + escapes ('}' :: rest) := ih h extra
  | case6 depth c rest hescape hopening hclosed hclosing ih =>
    have hplain := Plain.of_depth hescape hopening hclosed hclosing
    rw [hplain.nestingOfCut_eq, hplain.escapes_eq, ih h]

theorem escapes_le_cons (c : Char) (rest : List Char) : escapes rest ≤ escapes (c :: rest) := by
  by_cases hescape : c = '\\' ∧ ∃ s, rest = '$' :: '{' :: s
  · obtain ⟨rfl, s, rfl⟩ := hescape
    simp [escapes]
  · have hskipped : escapes (c :: rest) = escapes rest := by
      rw [escapes]
      exact fun s hc hrest => hescape ⟨hc, s, hrest⟩
    exact Nat.le_of_eq hskipped.symm

theorem escapes_le_append (front rest : List Char) : escapes front ≤ escapes (front ++ rest) := by
  fun_induction escapes front with
  | case1 => exact Nat.zero_le _
  | case2 front ih => exact Nat.succ_le_succ ih
  | case3 c front hescape ih => exact Nat.le_trans ih (escapes_le_cons c _)

/-! ## The place of the cut -/

/-- The body is parted at the first `:-` that has such a front. -/
structure PartsAt (P : List Char → Prop) (body front rest : List Char) : Prop where
  eq : body = front ++ ':' :: '-' :: rest
  holds : P front
  first : ∀ front' rest', body = front' ++ ':' :: '-' :: rest' → P front' →
    front.length ≤ front'.length

namespace PartsAt

variable {P Q : List Char → Prop} {body front rest : List Char} {c : Char}

theorem congr (h : ∀ front rest, body = front ++ ':' :: '-' :: rest →
    (P front ↔ Q front)) :
    PartsAt P body front rest ↔ PartsAt Q body front rest := by
  constructor
  · intro hparts
    refine ⟨hparts.eq, (h _ _ hparts.eq).1 hparts.holds, fun front' rest' heq hfront => ?_⟩
    exact hparts.first front' rest' heq ((h _ _ heq).2 hfront)
  · intro hparts
    refine ⟨hparts.eq, (h _ _ hparts.eq).2 hparts.holds, fun front' rest' heq hfront => ?_⟩
    exact hparts.first front' rest' heq ((h _ _ heq).1 hfront)

theorem not_nil : ¬ PartsAt P [] front rest := by
  intro h
  simpa using h.eq

theorem here_iff (h : P []) {tail : List Char} :
    PartsAt P (':' :: '-' :: tail) front rest ↔ front = [] ∧ rest = tail := by
  constructor
  · intro hparts
    have hlength := hparts.first [] tail rfl h
    obtain rfl := List.eq_nil_of_length_eq_zero (Nat.le_zero.1 hlength)
    have heq := hparts.eq
    simp only [List.nil_append, List.cons.injEq, true_and] at heq
    exact ⟨rfl, heq.symm⟩
  · rintro ⟨rfl, rfl⟩
    exact ⟨rfl, h, fun _ _ _ _ => Nat.zero_le _⟩

theorem cons_iff {tail : List Char} (h : ∀ s, c = ':' → tail = '-' :: s → ¬ P []) :
    PartsAt P (c :: tail) front rest ↔
      ∃ front', front = c :: front' ∧ PartsAt (fun s => P (c :: s)) tail front' rest := by
  constructor
  · intro hparts
    obtain ⟨heq, hfront, hfirst⟩ := hparts
    cases front with
    | nil =>
      obtain ⟨rfl, rfl⟩ := List.cons.inj heq
      exact absurd hfront (h rest rfl rfl)
    | cons d front' =>
      obtain ⟨rfl, htail⟩ := List.cons.inj heq
      refine ⟨front', rfl, htail, hfront, fun other rest' hother hother' => ?_⟩
      have hlength := hfirst (c :: other) rest' (by rw [hother]; rfl) hother'
      simpa using hlength
  · rintro ⟨front', rfl, hparts⟩
    refine ⟨by rw [hparts.eq]; rfl, hparts.holds, fun other rest' hother hfront => ?_⟩
    cases other with
    | nil =>
      obtain ⟨rfl, rfl⟩ := List.cons.inj hother
      exact absurd hfront (h rest' rfl rfl)
    | cons d other =>
      obtain ⟨rfl, htail⟩ := List.cons.inj hother
      simpa using hparts.first other rest' htail hfront

/-- Only a colon can begin a `:-`. -/
theorem cons_iff_of_ne (hc : c ≠ ':') {tail : List Char} :
    PartsAt P (c :: tail) front rest ↔
      ∃ front', front = c :: front' ∧ PartsAt (fun s => P (c :: s)) tail front' rest :=
  cons_iff fun _ hcolon => absurd hcolon hc

theorem exists_of_holds (heq : body = front ++ ':' :: '-' :: rest) (h : P front) :
    ∃ front rest, PartsAt P body front rest := by
  induction hlength : front.length using Nat.strongRecOn generalizing front rest with
  | ind n ih =>
    by_cases hfirst : ∃ front' rest', body = front' ++ ':' :: '-' :: rest' ∧ P front' ∧
        front'.length < front.length
    · obtain ⟨front', rest', heq', hfront, hlt⟩ := hfirst
      exact ih _ (hlength ▸ hlt) heq' hfront rfl
    · refine ⟨front, rest, heq, h, fun front' rest' heq' hfront => ?_⟩
      exact Nat.le_of_not_lt fun hlt => hfirst ⟨front', rest', heq', hfront, hlt⟩

end PartsAt

theorem map_fst_eq_some_iff {g : List Char → List Char} {p : List Char × Option (List Char)}
    {front rest : List Char} :
    p.map g id = (front, some rest) ↔ ∃ front', front = g front' ∧ p = (front', some rest) := by
  obtain ⟨before, rest?⟩ := p
  constructor
  · intro h
    obtain ⟨rfl, rfl⟩ := Prod.mk.inj h
    exact ⟨before, rfl, rfl⟩
  · rintro ⟨front', rfl, h⟩
    cases h
    rfl

/-- A body is cut at the first `:-` where nothing is open to the search for it. -/
theorem cut_eq_some_iff {depth : Nat} {body front rest : List Char} :
    cut depth body = (front, some rest) ↔
      PartsAt (fun s => nestingOfCut depth s = 0) body front rest := by
  -- on the scan: all that it passes is put in front of what it finds behind
  fun_induction cut depth body generalizing front with
  | case1 depth => exact iff_of_false (by simp) PartsAt.not_nil
  | case2 depth tail ih =>
    rw [map_fst_eq_some_iff, PartsAt.cons_iff_of_ne (by decide)]
    constructor
    · rintro ⟨front', rfl, h⟩
      exact ⟨'{' :: front', rfl, (PartsAt.cons_iff_of_ne (by decide)).2 ⟨front', rfl, ih.1 h⟩⟩
    · rintro ⟨_, rfl, h⟩
      obtain ⟨front', rfl, hinner⟩ := (PartsAt.cons_iff_of_ne (by decide)).1 h
      exact ⟨front', rfl, ih.2 hinner⟩
  | case3 depth tail ih =>
    rw [map_fst_eq_some_iff, PartsAt.cons_iff_of_ne (by decide)]
    exact exists_congr fun front' => and_congr_right fun _ => ih
  | case4 tail =>
    refine Iff.trans ?_ (PartsAt.here_iff (by rfl)).symm
    simp [eq_comm]
  | case5 depth c tail hopening hclosing hhere ih =>
    have hfront : ∀ front' rest', tail = front' ++ ':' :: '-' :: rest' →
        (nestingOfCut depth (c :: front') = 0 ↔ nestingOfCut depth front' = 0) := by
      rintro front' rest' rfl
      rw [nestingOfCut]
      · rintro s rfl rfl
        exact hopening _ rfl rfl
      · exact hclosing
    rw [map_fst_eq_some_iff, PartsAt.cons_iff]
    · exact exists_congr fun front' => and_congr_right fun _ =>
        ih.trans (PartsAt.congr fun front rest h => (hfront front rest h).symm)
    · rintro s rfl rfl
      exact fun h => hhere s h rfl rfl

theorem fst_of_cut {depth : Nat} {body : List Char} (h : (cut depth body).2 = none) :
    (cut depth body).1 = body := by
  fun_induction cut depth body <;> simp_all [Prod.map]

theorem cut_eq_none_iff {depth : Nat} {body : List Char} :
    cut depth body = (body, none) ↔
      ∀ front rest, body = front ++ ':' :: '-' :: rest → nestingOfCut depth front ≠ 0 := by
  constructor
  · intro h front rest heq hfront
    obtain ⟨front', rest', hparts⟩ :=
      PartsAt.exists_of_holds (P := fun s => nestingOfCut depth s = 0) heq hfront
    cases h.symm.trans (cut_eq_some_iff.2 hparts)
  · intro h
    cases hcut : (cut depth body).2 with
    | none => exact Prod.ext (fst_of_cut hcut) hcut
    | some rest =>
      have hparts := cut_eq_some_iff.1 (show cut depth body = (_, some rest) from Prod.ext rfl hcut)
      exact absurd hparts.holds (h _ _ hparts.eq)

/-! ## The two scans -/

/-- To the search for the closing brace nothing nested is open behind the text. -/
def Outside (front : List Char) : Prop := nesting? 0 front = some 0

instance (front : List Char) : Decidable (Outside front) :=
  inferInstanceAs (Decidable (nesting? 0 front = some 0))

/-- Inside of a body the search for the default is outside of nested references where the search for
the closing brace is, and no escape has been passed. -/
theorem nestingOfCut_eq_zero_iff {body front rest : List Char} (h : nesting? 0 body = some 0)
    (heq : body = front ++ ':' :: '-' :: rest) :
    nestingOfCut 0 front = 0 ↔ Outside front ∧ escapes front = 0 := by
  rw [heq, nesting?_append severs_colon] at h
  obtain ⟨nested, hnested, -⟩ := Option.bind_eq_some_iff.1 h
  have hcount := nestingOfCut_eq hnested 0
  rw [Nat.zero_add] at hcount
  rw [hcount, Outside, hnested, Option.some_inj]
  omega

/-- If no escape is in front of the first `:-` outside, none is in front of any other before. -/
theorem PartsAt.and_escapes_iff {body front rest : List Char} :
    PartsAt (fun s => Outside s ∧ escapes s = 0) body front rest ↔
      PartsAt Outside body front rest ∧ escapes front = 0 := by
  constructor
  · intro h
    refine ⟨⟨h.eq, h.holds.1, fun front' rest' heq houtside => ?_⟩, h.holds.2⟩
    refine Nat.le_of_not_lt fun hlt => ?_
    obtain ⟨middle, hmiddle⟩ : front' <+: front :=
      List.prefix_of_prefix_length_le ⟨_, heq.symm⟩ ⟨_, h.eq.symm⟩ (Nat.le_of_lt hlt)
    have hescapes : escapes front' ≤ 0 :=
      calc escapes front' ≤ escapes (front' ++ middle) := escapes_le_append front' middle
        _ = 0 := by rw [hmiddle, h.holds.2]
    have hle := h.first front' rest' heq ⟨houtside, Nat.le_zero.1 hescapes⟩
    omega
  · rintro ⟨h, hescapes⟩
    exact ⟨h.eq, ⟨h.holds, hescapes⟩, fun front' rest' heq houtside =>
      h.first front' rest' heq houtside.1⟩

/-- **Two scans of a body.** A body whose end has been found is cut at the first `:-` outside of
nested references, as the search for the end counts them, if no opening in front of that is escaped.
It is not cut if there is no `:-` outside of them without an escape in front. -/
theorem cut_exact {text body after : List Char} (h : close? 0 text = some (body, after)) :
    (∀ front rest, cut 0 body = (front, some rest) ↔
      PartsAt Outside body front rest ∧ escapes front = 0) ∧
    (cut 0 body = (body, none) ↔
      ∀ front rest, body = front ++ ':' :: '-' :: rest → Outside front → escapes front ≠ 0) := by
  have hnesting := (close?_eq_some_iff.1 h).2
  constructor
  · intro front rest
    calc cut 0 body = (front, some rest)
        ↔ PartsAt (fun s => nestingOfCut 0 s = 0) body front rest := cut_eq_some_iff
      _ ↔ PartsAt (fun s => Outside s ∧ escapes s = 0) body front rest :=
        PartsAt.congr fun _ _ => nestingOfCut_eq_zero_iff hnesting
      _ ↔ PartsAt Outside body front rest ∧ escapes front = 0 := PartsAt.and_escapes_iff
  · refine cut_eq_none_iff.trans (forall₂_congr fun front rest => forall_congr' fun heq => ?_)
    rw [ne_eq, nestingOfCut_eq_zero_iff hnesting heq, not_and]

/-- A nested reference has its default to itself, and an escape behind the cut does not matter. -/
theorem cut_exact_nested :
    close? 0 "a$\x7bb:-c\x7d:-\\$\x7bd\x7d!".toList =
        some ("a$\x7bb:-c\x7d:-\\$\x7bd".toList, ['!']) ∧
      PartsAt Outside "a$\x7bb:-c\x7d:-\\$\x7bd".toList "a$\x7bb:-c\x7d".toList
        "\\$\x7bd".toList ∧ escapes "a$\x7bb:-c\x7d".toList = 0 := by
  have hclose : close? 0 "a$\x7bb:-c\x7d:-\\$\x7bd\x7d!".toList =
      some ("a$\x7bb:-c\x7d:-\\$\x7bd".toList, ['!']) := by decide
  exact ⟨hclose, ((cut_exact hclose).1 _ _).1 (by decide)⟩

/-- An escaped opening hides the `:-` behind it from the search for the default, though that is
outside of nested references: the reference has no default. -/
theorem cut_escaped :
    close? 0 "cost\\$\x7b:-none\x7d".toList = some ("cost\\$\x7b:-none".toList, []) ∧
      PartsAt Outside "cost\\$\x7b:-none".toList "cost\\$\x7b".toList "none".toList ∧
      fallback? "cost\\$\x7b:-none".toList = none ∧
      Resolver.substitute ⟨[], ∅⟩ "$\x7bcost\\$\x7b:-none\x7d" = .ok none := by
  have hfallback : fallback? "cost\\$\x7b:-none".toList = none := by decide
  refine ⟨by decide, ⟨by decide, by decide, fun front rest heq _ => ?_⟩, hfallback, ?_⟩
  · refine Nat.le_of_not_lt fun hlt => ?_
    have hcolon : "cost\\$\x7b:-none".toList[front.length]? = some ':' := by
      rw [heq]
      simp
    have hnone : ∀ n < 7, "cost\\$\x7b:-none".toList[n]? ≠ some ':' := by decide
    exact hnone _ hlt hcolon
  · have hwhole : whole? "$\x7bcost\\$\x7b:-none\x7d".toList =
        some "cost\\$\x7b:-none".toList := by decide
    have hlookup : ∀ name, Resolver.lookup ⟨[], ∅⟩ name = none := fun _ => rfl
    have hresolve : Resolver.resolve ⟨[], ∅⟩ [] "cost\\$\x7b:-none".toList = .ok none := by
      rw [Resolver.resolve_eq, if_neg List.not_mem_nil, hlookup, hfallback]
      rfl
    rw [Resolver.substitute, Resolver.expand_eq, hwhole]
    exact congrArg _ hresolve

end CommandLine.Reference
