import CommandLine.Decimal.Reading
import CommandLine.Proofs.Decimal.Numeral
import Mathlib.Data.List.TakeWhile

/-!
# Numbers

What texts are read as doubles: `Number` is the grammar, a sign or none in front of a decimal with
at most one point and perhaps an exponent, or in front of a word for a special value.
`isSome_double?_iff` says that these texts are read and no others. Behind a minus and a digit or a
point there can be no word, only a decimal (`number_minus_iff`).
-/

namespace CommandLine.Decimal

/-! ## Grammar -/

/-- Nothing, or an `e` with a numeral behind it. -/
inductive Exponent : List Char → Prop
  | absent : Exponent []
  | power {e : Char} (he : e = 'e' ∨ e = 'E') (n : Numeral) : Exponent (e :: n.chars)

/-- Digits with at most one point among them, at least one digit, and an exponent or none. -/
inductive Magnitude : List Char → Prop
  | whole {digits exponent : List Char} (hdigits : ∀ c ∈ digits, isDigit c) (hne : digits ≠ [])
      (hexponent : Exponent exponent) : Magnitude (digits ++ exponent)
  | pointed {whole fraction exponent : List Char} (hwhole : ∀ c ∈ whole, isDigit c)
      (hfraction : ∀ c ∈ fraction, isDigit c) (hne : whole ++ fraction ≠ [])
      (hexponent : Exponent exponent) : Magnitude (whole ++ '.' :: (fraction ++ exponent))

/-- A word for a special value, in any case. -/
def Special (s : List Char) : Prop :=
  String.ofList (s.map Char.toLower) ∈ ["inf", "infinity", "nan"]

/-- A number, with a sign or without. -/
inductive Number : List Char → Prop
  | magnitude (sign? : Option Sign) {s : List Char} (h : Magnitude s) :
      Number (Sign.chars sign? ++ s)
  | special (sign? : Option Sign) {s : List Char} (h : Special s) : Number (Sign.chars sign? ++ s)

/-! ## Magnitudes -/

theorem Exponent.head {s : List Char} (h : Exponent s) {c : Char} (hc : s.head? = some c) :
    isDigit c = false ∧ c ≠ '.' := by
  cases h with
  | absent => cases hc
  | power he n =>
    obtain rfl := Option.some.inj hc
    rcases he with rfl | rfl <;> decide

theorem isSome_exponent?_iff {s : List Char} : (exponent? s).isSome ↔ Exponent s := by
  cases s with
  | nil => exact ⟨fun _ => .absent, fun _ => rfl⟩
  | cons e rest =>
    rw [exponent?]
    split
    · rename_i he
      rw [isSome_integer?_iff]
      constructor
      · rintro ⟨n, rfl⟩
        exact .power he n
      · rintro ⟨⟩
        exact ⟨_, rfl⟩
    · rename_i he
      refine ⟨nofun, fun h => ?_⟩
      cases h with
      | power he' n => exact absurd he' he

theorem spanDigits_append {digits rest : List Char} (h : ∀ c ∈ digits, isDigit c)
    (hrest : ∀ c, rest.head? = some c → isDigit c = false) :
    spanDigits (digits ++ rest) = (digits, rest) := by
  unfold spanDigits
  rw [List.span_eq_takeWhile_dropWhile, List.takeWhile_append_of_pos h,
    List.dropWhile_append_of_pos h]
  cases rest with
  | nil => simp
  | cons c rest => simp [hrest c rfl]

theorem exists_spanDigits (s : List Char) :
    ∃ digits rest, s = digits ++ rest ∧ (∀ c ∈ digits, isDigit c) ∧
      (∀ c, rest.head? = some c → isDigit c = false) := by
  refine ⟨s.takeWhile isDigit, s.dropWhile isDigit, List.takeWhile_append_dropWhile.symm,
    fun c hc => List.mem_takeWhile_imp hc, fun c hc => ?_⟩
  have := List.head?_dropWhile_not isDigit s
  rw [hc] at this
  simpa using this

theorem isSome_unsigned?_whole {whole rest : List Char} (hwhole : ∀ c ∈ whole, isDigit c)
    (hrest : ∀ c, rest.head? = some c → isDigit c = false ∧ c ≠ '.') :
    (unsigned? (whole ++ rest)).isSome ↔ (natural? whole).isSome ∧ (exponent? rest).isSome := by
  have hpoint : ∀ tail, rest ≠ '.' :: tail := by
    rintro tail rfl
    exact (hrest '.' rfl).2 rfl
  unfold unsigned?
  rw [spanDigits_append hwhole fun c hc => (hrest c hc).1]
  simp only [List.append_nil]
  cases natural? whole <;> cases exponent? rest <;> simp

theorem isSome_unsigned?_pointed {whole fraction rest : List Char}
    (hwhole : ∀ c ∈ whole, isDigit c) (hfraction : ∀ c ∈ fraction, isDigit c)
    (hrest : ∀ c, rest.head? = some c → isDigit c = false) :
    (unsigned? (whole ++ '.' :: (fraction ++ rest))).isSome ↔
      (natural? (whole ++ fraction)).isSome ∧ (exponent? rest).isSome := by
  have hpoint : ∀ c, ('.' :: (fraction ++ rest)).head? = some c → isDigit c = false := by
    rintro c hc
    obtain rfl := Option.some.inj hc
    decide
  unfold unsigned?
  simp only [spanDigits_append hwhole hpoint, spanDigits_append hfraction hrest]
  cases natural? (whole ++ fraction) <;> cases exponent? rest <;> simp

theorem isSome_unsigned?_iff {s : List Char} : (unsigned? s).isSome ↔ Magnitude s := by
  constructor
  · obtain ⟨whole, rest, rfl, hwhole, hrest⟩ := exists_spanDigits s
    by_cases hpoint : rest.head? = some '.'
    · obtain ⟨fraction, rest', htail, hfraction, hrest'⟩ := exists_spanDigits rest.tail
      obtain rfl : rest = '.' :: (fraction ++ rest') :=
        htail ▸ List.eq_cons_of_mem_head? hpoint
      rw [isSome_unsigned?_pointed hwhole hfraction hrest', isSome_natural?_iff,
        isSome_exponent?_iff]
      exact fun ⟨hnatural, hexponent⟩ => .pointed hwhole hfraction hnatural.1 hexponent
    · have hrest' : ∀ c, rest.head? = some c → isDigit c = false ∧ c ≠ '.' := by
        refine fun c hc => ⟨hrest c hc, ?_⟩
        rintro rfl
        exact hpoint hc
      rw [isSome_unsigned?_whole hwhole hrest', isSome_natural?_iff, isSome_exponent?_iff]
      exact fun ⟨hnatural, hexponent⟩ => .whole hwhole hnatural.1 hexponent
  · intro h
    cases h with
    | whole hdigits hne hexponent =>
      rw [isSome_unsigned?_whole hdigits fun c hc => hexponent.head hc, isSome_natural?_iff,
        isSome_exponent?_iff]
      exact ⟨⟨hne, hdigits⟩, hexponent⟩
    | pointed hwhole hfraction hne hexponent =>
      rw [isSome_unsigned?_pointed hwhole hfraction fun c hc => (hexponent.head hc).1,
        isSome_natural?_iff, isSome_exponent?_iff]
      exact ⟨⟨hne, List.forall_mem_append.2 ⟨hwhole, hfraction⟩⟩, hexponent⟩

/-! ## Numbers -/

theorem isSome_special?_iff {s : List Char} : (special? s).isSome ↔ Special s := by
  unfold special? Special
  dsimp only
  split
  · rename_i h
    simp only [Option.isSome_some, true_iff]
    rcases h with h | h <;> simp [h]
  · rename_i h
    split
    · rename_i hnan
      simp [hnan]
    · rename_i hnan
      rw [not_or] at h
      simp [h, hnan]

theorem isSome_magnitude?_iff {s : List Char} :
    (magnitude? s).isSome ↔ Special s ∨ Magnitude s := by
  rw [← isSome_special?_iff, ← isSome_unsigned?_iff]
  unfold magnitude?
  cases special? s <;> simp

theorem Special.head {c : Char} {s : List Char} (h : Special (c :: s)) :
    c.toLower = 'i' ∨ c.toLower = 'n' := by
  have hfirst : ∀ {first : Char} {word : List Char},
      String.ofList ((c :: s).map Char.toLower) = String.ofList (first :: word) →
        c.toLower = first := by
    intro first word hword
    exact (List.cons.inj (String.ofList_injective hword)).1
  simp only [Special, List.mem_cons, List.not_mem_nil, or_false] at h
  rcases h with h | h | h
  · exact .inl (hfirst h)
  · exact .inl (hfirst h)
  · exact .inr (hfirst h)

theorem Special.unsigned {s : List Char} (h : Special s) : Unsigned s := by
  rintro sign hsign
  rw [List.eq_cons_of_mem_head? hsign] at h
  have hhead := h.head
  revert hhead
  cases sign <;> decide

theorem Magnitude.unsigned {s : List Char} (h : Magnitude s) : Unsigned s := by
  cases h with
  | whole hdigits hne hexponent =>
    obtain ⟨d, digits, rfl⟩ := List.exists_cons_of_ne_nil hne
    exact unsigned_cons_of_isDigit (hdigits d List.mem_cons_self) _
  | @pointed whole fraction exponent hwhole hfraction hne hexponent =>
    cases whole with
    | nil =>
      rintro sign hsign
      cases sign <;> cases hsign
    | cons d whole => exact unsigned_cons_of_isDigit (hwhole d List.mem_cons_self) _

theorem isSome_double?_append {sign? : Option Sign} {s : List Char}
    (h : sign? = none → Unsigned s) :
    (double? (Sign.chars sign? ++ s)).isSome ↔ (magnitude? s).isSome := by
  match sign? with
  | some .minus =>
    show (double? ('-' :: s)).isSome ↔ _
    rw [double?, Option.isSome_map]
  | some .plus =>
    show (double? ('+' :: s)).isSome ↔ _
    rw [double?]
  | none =>
    show (double? s).isSome ↔ _
    rw [double?]
    · rintro rest rfl
      exact h rfl .minus rfl
    · rintro rest rfl
      exact h rfl .plus rfl

/-- The texts of doubles are the numbers. -/
theorem isSome_double?_iff {s : List Char} : (double? s).isSome ↔ Number s := by
  constructor
  · obtain ⟨sign?, rest, rfl, hsign⟩ := exists_chars_append s
    rw [isSome_double?_append hsign, isSome_magnitude?_iff]
    rintro (h | h)
    · exact .special sign? h
    · exact .magnitude sign? h
  · intro h
    cases h with
    | magnitude sign? h =>
      rw [isSome_double?_append fun _ => h.unsigned, isSome_magnitude?_iff]
      exact .inr h
    | special sign? h =>
      rw [isSome_double?_append fun _ => h.unsigned, isSome_magnitude?_iff]
      exact .inl h

/-- Behind a minus and a digit or a point there is no word. -/
theorem number_minus_iff {c : Char} (hc : isDigit c ∨ c = '.') (s : List Char) :
    Number ('-' :: c :: s) ↔ (unsigned? (c :: s)).isSome := by
  have hword : ¬ Special (c :: s) := by
    intro h
    have hhead := h.head
    rcases hc with hc | rfl
    · rw [toLower_of_isDigit hc] at hhead
      rcases hhead with rfl | rfl <;> exact absurd hc (by decide)
    · exact absurd hhead (by decide)
  have hsplit : double? (Sign.chars (some .minus) ++ c :: s) = double? ('-' :: c :: s) := rfl
  rw [← isSome_double?_iff, ← hsplit, @isSome_double?_append (some .minus) (c :: s) nofun,
    isSome_magnitude?_iff, isSome_unsigned?_iff]
  exact or_iff_right hword

end CommandLine.Decimal
