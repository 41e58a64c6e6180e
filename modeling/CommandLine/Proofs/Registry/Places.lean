import CommandLine.Proofs.Registry.Acceptance

/-!
# Parameters at their places

`Parameter.placesOfAll` lists the parameters of a declaration, those inside of groups included, in
the order in which the registry looks at them. `Parameter.Flawed` says which of them are unsound at
their places. The flaw that the registry finds is the first in that order
(`firstFlawOfAll?_eq_some_iff`), and there is none when names are given and groups hold options and
groups only (`flawless_iff`).
-/

namespace CommandLine

namespace Parameter

mutual

/-- The parameters in a parameter, the outer ones first, and for each whether it is a member of a
group. -/
def places (isMember : Bool) (p : Parameter) : List (Bool × Parameter) :=
  (isMember, p) :: (match p with
    | bean _ _ members => placesOfAll true members
    | _ => [])

def placesOfAll (isMember : Bool) : List Parameter → List (Bool × Parameter)
  | [] => []
  | p :: rest => places isMember p ++ placesOfAll isMember rest

end

/-- What is unsound about a parameter at its place. Members of groups are options or groups,
whatever they are called, and all but plain parameters have names. -/
inductive Flawed : Bool → Parameter → DeclarationFlaw → Prop
  | member {p : Parameter} (hkind : p.isPlain ∨ p.isInternal) : Flawed true p (.beanMember p.name)
  | unnamed {isMember : Bool} {p : Parameter} (hplain : p.isPlain = false)
      (hinternal : isMember → p.isInternal = false) (hname : p.name = "") :
      Flawed isMember p .unnamedParameter

theorem flaw?_eq_some_iff {isMember : Bool} {p : Parameter} {flaw : DeclarationFlaw} :
    p.flaw? isMember = some flaw ↔ Flawed isMember p flaw := by
  constructor
  · intro h
    cases p with
    | plain a type =>
      cases isMember with
      | false => cases h
      | true =>
        cases h
        exact .member (.inl rfl)
    | option a type =>
      simp only [flaw?, String.isEmpty_iff, Option.ite_none_right_eq_some, Option.some.injEq] at h
      exact h.2 ▸ .unnamed rfl (fun _ => rfl) h.1
    | bean a type members =>
      simp only [flaw?, String.isEmpty_iff, Option.ite_none_right_eq_some, Option.some.injEq] at h
      exact h.2 ▸ .unnamed rfl (fun _ => rfl) h.1
    | internal a =>
      cases isMember with
      | true =>
        cases h
        exact .member (.inr rfl)
      | false =>
        simp only [flaw?, Bool.false_eq_true, if_false, String.isEmpty_iff,
          Option.ite_none_right_eq_some, Option.some.injEq] at h
        exact h.2 ▸ .unnamed rfl nofun h.1
  · intro h
    cases h with
    | member hkind => cases p <;> simp_all [isPlain, isInternal, flaw?, name, attributes]
    | unnamed hplain hinternal hname =>
      cases p <;> simp_all [isPlain, isInternal, flaw?, name, attributes]

mutual

theorem firstFlaw?_eq (isMember : Bool) (p : Parameter) :
    firstFlaw? isMember p = (places isMember p).findSome? fun place => place.2.flaw? place.1 := by
  match p with
  | .plain a type =>
    show (flaw? isMember (.plain a type)).or none = [(isMember, plain a type)].findSome? _
    rw [Option.or_none, List.findSome?_singleton]
  | .option a type =>
    show (flaw? isMember (.option a type)).or none = [(isMember, option a type)].findSome? _
    rw [Option.or_none, List.findSome?_singleton]
  | .bean a type members =>
    show (flaw? isMember (.bean a type members)).or (firstFlawOfAll? true members) =
      ((isMember, .bean a type members) :: placesOfAll true members).findSome? _
    rw [List.findSome?_cons, firstFlawOfAll?_eq true members]
    cases flaw? isMember (.bean a type members) <;> rfl
  | .internal a =>
    show (flaw? isMember (.internal a)).or none = [(isMember, internal a)].findSome? _
    rw [Option.or_none, List.findSome?_singleton]

/-- The first unsound parameter is the first in the order of the places. -/
theorem firstFlawOfAll?_eq (isMember : Bool) (l : List Parameter) :
    firstFlawOfAll? isMember l =
      (placesOfAll isMember l).findSome? fun place => place.2.flaw? place.1 := by
  match l with
  | [] => rfl
  | p :: rest =>
    rw [firstFlawOfAll?, placesOfAll, List.findSome?_append, firstFlaw?_eq isMember p,
      firstFlawOfAll?_eq isMember rest]

end

/-- No parameter is unsound at its place. -/
def Flawless (l : List Parameter) : Prop :=
  ∀ place ∈ placesOfAll false l, ∀ flaw, ¬ Flawed place.1 place.2 flaw

/-- The flaw of the first parameter that is unsound at its place. -/
def FirstFlaw (l : List Parameter) (flaw : DeclarationFlaw) : Prop :=
  ∃ before place after, placesOfAll false l = before ++ place :: after ∧
    Flawed place.1 place.2 flaw ∧ ∀ earlier ∈ before, ∀ other, ¬ Flawed earlier.1 earlier.2 other

theorem flaw?_eq_none_iff {isMember : Bool} {p : Parameter} :
    p.flaw? isMember = none ↔ ∀ flaw, ¬ Flawed isMember p flaw := by
  simp only [← flaw?_eq_some_iff, Option.eq_none_iff_forall_ne_some, ne_eq]

theorem firstFlawOfAll?_eq_none_iff {l : List Parameter} :
    firstFlawOfAll? false l = none ↔ Flawless l := by
  rw [firstFlawOfAll?_eq, List.findSome?_eq_none_iff]
  simp only [flaw?_eq_none_iff]
  rfl

theorem firstFlawOfAll?_eq_some_iff {l : List Parameter} {flaw : DeclarationFlaw} :
    firstFlawOfAll? false l = some flaw ↔ FirstFlaw l flaw := by
  rw [firstFlawOfAll?_eq, List.findSome?_eq_some_iff]
  simp only [flaw?_eq_none_iff, flaw?_eq_some_iff]
  rfl

/-- No parameter is unsound when all but the plain ones have names and groups hold options and
groups only. -/
theorem flawless_iff {l : List Parameter} :
    Flawless l ↔
      (∀ isMember p, (isMember, p) ∈ placesOfAll false l → p.isPlain = false → p.name ≠ "") ∧
        ∀ p, (true, p) ∈ placesOfAll false l → p.isPlain = false ∧ p.isInternal = false := by
  constructor
  · intro h
    have hmember : ∀ p, (true, p) ∈ placesOfAll false l →
        p.isPlain = false ∧ p.isInternal = false := by
      intro p hp
      have hkind := fun hkind => h (true, p) hp _ (.member hkind)
      simpa [not_or] using hkind
    refine ⟨fun isMember p hp hplain hname => h (isMember, p) hp _ (.unnamed hplain ?_ hname),
      hmember⟩
    rintro rfl
    exact (hmember p hp).2
  · rintro ⟨hnamed, hmember⟩ ⟨isMember, p⟩ hp flaw hflaw
    cases hflaw with
    | member hkind =>
      obtain ⟨hplain, hinternal⟩ := hmember p hp
      simp [hplain, hinternal] at hkind
    | unnamed hplain hinternal hname => exact hnamed isMember p hp hplain hname

end Parameter

end CommandLine
