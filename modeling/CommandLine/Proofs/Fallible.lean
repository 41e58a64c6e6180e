/-!
# Computations that can fail

When a computation in two steps succeeds, and when it fails: what a chain of `Except.bind` and
`Except.map` answers is taken apart by these, one step at a time. `Except.FailsOnly` says which
errors a computation can have; a computation in steps has the errors of its steps.
-/

namespace Except

variable {ε α β : Type}

theorem bind_eq_ok_iff {x : Except ε α} {f : α → Except ε β} {b : β} :
    x.bind f = .ok b ↔ ∃ a, x = .ok a ∧ f a = .ok b := by
  cases x with
  | error e => simp [Except.bind]
  | ok a => simp [Except.bind]

theorem bind_eq_error_iff {x : Except ε α} {f : α → Except ε β} {e : ε} :
    x.bind f = .error e ↔ x = .error e ∨ ∃ a, x = .ok a ∧ f a = .error e := by
  cases x with
  | error e' => simp [Except.bind]
  | ok a => simp [Except.bind]

theorem map_eq_ok_iff {x : Except ε α} {f : α → β} {b : β} :
    x.map f = .ok b ↔ ∃ a, x = .ok a ∧ f a = b := by
  cases x with
  | error e => simp [Except.map]
  | ok a => simp [Except.map]

theorem map_eq_error_iff {x : Except ε α} {f : α → β} {e : ε} :
    x.map f = .error e ↔ x = .error e := by
  cases x with
  | error e' => simp [Except.map]
  | ok a => simp [Except.map]

theorem cases_of_map_eq_map {γ : Type} {x : Except ε α} {y : Except ε β} {f : α → γ} {g : β → γ}
    (h : x.map f = y.map g) :
    (∃ e, x = .error e ∧ y = .error e) ∨ ∃ a b, x = .ok a ∧ y = .ok b ∧ f a = g b := by
  cases y with
  | error e => exact .inl ⟨e, map_eq_error_iff.1 h, rfl⟩
  | ok b =>
    obtain ⟨a, hx, hsame⟩ := map_eq_ok_iff.1 h
    exact .inr ⟨a, b, hx, rfl, hsame⟩

theorem mapError_eq_error_iff {ε' : Type} {x : Except ε α} {f : ε → ε'} {e : ε'} :
    x.mapError f = .error e ↔ ∃ e', x = .error e' ∧ f e' = e := by
  cases x with
  | error e' =>
    show Except.error (f e') = .error e ↔ _
    simp
  | ok a => exact ⟨nofun, fun ⟨_, h, _⟩ => nomatch h⟩

theorem mapError_eq_ok_iff {ε' : Type} {x : Except ε α} {f : ε → ε'} {a : α} :
    x.mapError f = .ok a ↔ x = .ok a := by
  cases x with
  | error e' => exact ⟨nofun, nofun⟩
  | ok a' =>
    show Except.ok a' = .ok a ↔ _
    simp

theorem bind_cons_eq_ok_iff {x : Except ε α} {rest : Except ε (List α)} {l : List α} :
    (x.bind fun a => rest.map (a :: ·)) = .ok l ↔
      ∃ a l', x = .ok a ∧ rest = .ok l' ∧ l = a :: l' := by
  simp only [bind_eq_ok_iff, map_eq_ok_iff]
  constructor
  · rintro ⟨a, hx, l', hrest, rfl⟩
    exact ⟨a, l', hx, hrest, rfl⟩
  · rintro ⟨a, l', hx, hrest, rfl⟩
    exact ⟨a, hx, l', hrest, rfl⟩

/-- The error of a computation that fails. -/
def error? : Except ε α → Option ε
  | .ok _ => none
  | .error e => some e

theorem error?_eq_some_iff {x : Except ε α} {e : ε} : x.error? = some e ↔ x = .error e := by
  cases x <;> simp [error?]

theorem error?_eq_none_iff {x : Except ε α} : x.error? = none ↔ ∃ a, x = .ok a := by
  cases x <;> simp [error?]

@[simp] theorem error?_map {x : Except ε α} (f : α → β) : (x.map f).error? = x.error? := by
  cases x <;> rfl

/-- The first step fails, or else the second, if that does not depend on what the first answers. -/
theorem error?_bind {x : Except ε α} {f : α → Except ε β} {e? : Option ε}
    (h : ∀ a, x = .ok a → (f a).error? = e?) : (x.bind f).error? = x.error?.or e? := by
  cases x with
  | error e => rfl
  | ok a => exact h a rfl

theorem error?_bind_cons {x : Except ε α} {rest : Except ε (List α)} :
    (x.bind fun a => rest.map (a :: ·)).error? = x.error?.or rest.error? :=
  error?_bind fun _ _ => error?_map _

/-- The computation fails, if at all, with an error that has the property. -/
def FailsOnly (P : ε → Prop) (x : Except ε α) : Prop := ∀ e, x = .error e → P e

namespace FailsOnly

variable {P Q : ε → Prop}

theorem ok (a : α) : FailsOnly P (.ok a) := nofun

theorem error {e : ε} (h : P e) : FailsOnly P (.error e : Except ε α) := by
  rintro _ ⟨⟩
  exact h

theorem bind {x : Except ε α} {f : α → Except ε β} (hx : FailsOnly P x)
    (hf : ∀ a, x = .ok a → FailsOnly P (f a)) : FailsOnly P (x.bind f) := by
  intro e h
  obtain he | ⟨a, ha, he⟩ := Except.bind_eq_error_iff.1 h
  · exact hx e he
  · exact hf a ha e he

theorem map {x : Except ε α} (hx : FailsOnly P x) (f : α → β) : FailsOnly P (x.map f) :=
  fun e h => hx e (Except.map_eq_error_iff.1 h)

theorem mono {x : Except ε α} (hx : FailsOnly P x) (h : ∀ e, P e → Q e) : FailsOnly Q x :=
  fun e he => h e (hx e he)

end FailsOnly

end Except
