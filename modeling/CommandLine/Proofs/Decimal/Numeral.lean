import CommandLine.Decimal.Integer
import Mathlib.Data.Nat.Digits.Lemmas
import Mathlib.Tactic.Ring

/-!
# Numerals

A numeral is an integer in decimal: a sign or none, and one or more digits, zeros in front included.
`integer?` reads the texts of numerals and no others, each as the number that it stands for
(`integer?_eq_some_iff`), and `word?` those whose numbers fit in 64 signed bits.
-/

namespace CommandLine.Decimal

/-! ## Digits -/

/-- The character of a digit. -/
def digitChar (d : Fin 10) : Char := Nat.digitChar d

theorem digit?_digitChar (d : Fin 10) : digit? (digitChar d) = some d.val := by
  revert d
  decide

theorem digit?_eq_some_iff {c : Char} {n : Nat} :
    digit? c = some n ↔ ∃ d : Fin 10, digitChar d = c ∧ d.val = n := by
  constructor
  · intro h
    unfold digit? at h
    split at h
    · rename_i hbounds
      change 48 ≤ c.toNat ∧ c.toNat ≤ 57 at hbounds
      have hn : c.toNat - 48 = n := Option.some.inj h
      refine ⟨⟨c.toNat - 48, by omega⟩, ?_, hn⟩
      refine Char.toNat_inj.1 ?_
      show (Nat.digitChar (c.toNat - 48)).toNat = c.toNat
      rw [Nat.toNat_digitChar_of_lt_ten (by omega)]
      omega
    · cases h
  · rintro ⟨d, rfl, rfl⟩
    exact digit?_digitChar d

theorem isDigit_digitChar (d : Fin 10) : isDigit (digitChar d) := by
  rw [isDigit, digit?_digitChar]
  rfl

theorem isDigit_iff {c : Char} : isDigit c ↔ ∃ d, digitChar d = c := by
  rw [isDigit, Option.isSome_iff_exists]
  simp only [digit?_eq_some_iff]
  exact ⟨fun ⟨_, d, hd, _⟩ => ⟨d, hd⟩, fun ⟨d, hd⟩ => ⟨_, d, hd, rfl⟩⟩

theorem isDigit_of_mem_map {digits : List (Fin 10)} {c : Char} (hc : c ∈ digits.map digitChar) :
    isDigit c := by
  obtain ⟨d, -, rfl⟩ := List.mem_map.1 hc
  exact isDigit_digitChar d

theorem toLower_of_isDigit {c : Char} (h : isDigit c) : c.toLower = c := by
  obtain ⟨d, rfl⟩ := isDigit_iff.1 h
  revert d
  decide

/-! ## Naturals -/

/-- The number of a list of digits, the highest of which comes first. -/
def ofDigits (digits : List (Fin 10)) : Nat := Nat.ofDigits 10 (digits.map Fin.val).reverse

theorem ofDigits_cons (d : Fin 10) (digits : List (Fin 10)) :
    ofDigits (d :: digits) = ofDigits digits + 10 ^ digits.length * d.val := by
  simp [ofDigits, Nat.ofDigits_append]

/-- Reading on is reading with the digits so far in front. -/
theorem naturalFrom?_eq_some_iff {acc n : Nat} {s : List Char} :
    naturalFrom? acc s = some n ↔
      ∃ digits, digits.map digitChar = s ∧ acc * 10 ^ digits.length + ofDigits digits = n := by
  induction s generalizing acc with
  | nil => simp [naturalFrom?, ofDigits]
  | cons c s ih =>
    rw [naturalFrom?, Option.bind_eq_some_iff]
    simp only [digit?_eq_some_iff, ih]
    constructor
    · rintro ⟨_, ⟨d, rfl, rfl⟩, digits, rfl, rfl⟩
      refine ⟨d :: digits, rfl, ?_⟩
      rw [ofDigits_cons, List.length_cons]
      ring
    · rintro ⟨digits, hs, rfl⟩
      cases digits with
      | nil => cases hs
      | cons d digits =>
        obtain ⟨rfl, rfl⟩ := List.cons.inj hs
        refine ⟨d, ⟨d, rfl, rfl⟩, digits, rfl, ?_⟩
        rw [ofDigits_cons, List.length_cons]
        ring

theorem natural?_eq_some_iff {n : Nat} {s : List Char} :
    natural? s = some n ↔
      ∃ digits, digits ≠ [] ∧ digits.map digitChar = s ∧ ofDigits digits = n := by
  cases s with
  | nil =>
    simp [natural?]
  | cons c s =>
    rw [natural?, naturalFrom?_eq_some_iff]
    · simp only [Nat.zero_mul, Nat.zero_add]
      refine exists_congr fun digits => ⟨fun ⟨hs, hn⟩ => ⟨?_, hs, hn⟩, fun ⟨_, hs, hn⟩ => ⟨hs, hn⟩⟩
      rintro rfl
      cases hs
    · nofun

theorem exists_digits {s : List Char} (h : ∀ c ∈ s, isDigit c) :
    ∃ digits : List (Fin 10), digits.map digitChar = s := by
  induction s with
  | nil => exact ⟨[], rfl⟩
  | cons c s ih =>
    obtain ⟨hc, hs⟩ := List.forall_mem_cons.1 h
    obtain ⟨d, rfl⟩ := isDigit_iff.1 hc
    obtain ⟨digits, rfl⟩ := ih hs
    exact ⟨d :: digits, rfl⟩

theorem isSome_natural?_iff {s : List Char} :
    (natural? s).isSome ↔ s ≠ [] ∧ ∀ c ∈ s, isDigit c := by
  rw [Option.isSome_iff_exists]
  simp only [natural?_eq_some_iff]
  constructor
  · rintro ⟨_, digits, hne, rfl, rfl⟩
    exact ⟨by simpa using hne, fun c hc => isDigit_of_mem_map hc⟩
  · rintro ⟨hne, hdigits⟩
    obtain ⟨digits, rfl⟩ := exists_digits hdigits
    exact ⟨_, digits, by simpa using hne, rfl, rfl⟩

/-! ## Signs -/

/-- The sign of a number. -/
inductive Sign where
  | plus
  | minus
deriving DecidableEq, Repr

namespace Sign

def char : Sign → Char
  | plus => '+'
  | minus => '-'

/-- A sign, or none, as it is written. -/
def chars (sign? : Option Sign) : List Char := (sign?.map char).toList

/-- The number of the given magnitude. -/
def apply (sign? : Option Sign) (n : Nat) : Int :=
  match sign? with
  | some minus => -n
  | _ => n

end Sign

/-- No sign stands in front. -/
def Unsigned (s : List Char) : Prop := ∀ sign : Sign, s.head? ≠ some sign.char

theorem unsigned_cons_of_isDigit {c : Char} (h : isDigit c) (s : List Char) :
    Unsigned (c :: s) := by
  rintro sign hsign
  obtain rfl : c = sign.char := Option.some.inj hsign
  cases sign <;> exact absurd h (by decide)

theorem exists_chars_append (s : List Char) :
    ∃ sign? rest, s = Sign.chars sign? ++ rest ∧ (sign? = none → Unsigned rest) := by
  by_cases h : ∃ sign : Sign, s.head? = some sign.char
  · obtain ⟨sign, hsign⟩ := h
    exact ⟨some sign, s.tail, List.eq_cons_of_mem_head? hsign, nofun⟩
  · exact ⟨none, s, rfl, fun _ sign hsign => h ⟨sign, hsign⟩⟩

/-! ## Integers -/

/-- An integer in decimal. -/
structure Numeral where
  sign? : Option Sign
  /-- The highest digit comes first. -/
  digits : List (Fin 10)
  digits_ne_nil : digits ≠ []
deriving DecidableEq, Repr

namespace Numeral

def chars (n : Numeral) : List Char := Sign.chars n.sign? ++ n.digits.map digitChar

/-- The numeral as it is written. -/
def text (n : Numeral) : String := String.ofList n.chars

/-- The number that the numeral stands for. -/
def value (n : Numeral) : Int := Sign.apply n.sign? (ofDigits n.digits)

@[simp] theorem toList_text (n : Numeral) : n.text.toList = n.chars := by
  simp [text]

theorem unsigned_digits (n : Numeral) : Unsigned (n.digits.map digitChar) := by
  obtain ⟨d, digits, h⟩ := List.exists_cons_of_ne_nil n.digits_ne_nil
  rw [h, List.map_cons]
  exact unsigned_cons_of_isDigit (isDigit_digitChar d) _

end Numeral

theorem integer?_chars_append {sign? : Option Sign} {s : List Char}
    (h : sign? = none → Unsigned s) :
    integer? (Sign.chars sign? ++ s) = (natural? s).map (Sign.apply sign?) := by
  match sign? with
  | some .minus =>
    show integer? ('-' :: s) = _
    rw [integer?]
    cases natural? s <;> rfl
  | some .plus =>
    show integer? ('+' :: s) = _
    rw [integer?]
    cases natural? s <;> rfl
  | none =>
    show integer? s = _
    rw [integer?]
    · cases natural? s <;> rfl
    · rintro rest rfl
      exact h rfl .minus rfl
    · rintro rest rfl
      exact h rfl .plus rfl

theorem integer?_eq_some_iff {s : List Char} {i : Int} :
    integer? s = some i ↔ ∃ n : Numeral, n.chars = s ∧ n.value = i := by
  constructor
  · intro h
    obtain ⟨sign?, rest, rfl, hsign⟩ := exists_chars_append s
    rw [integer?_chars_append hsign] at h
    obtain ⟨n, hn, rfl⟩ := Option.map_eq_some_iff.1 h
    obtain ⟨digits, hne, rfl, rfl⟩ := natural?_eq_some_iff.1 hn
    exact ⟨⟨sign?, digits, hne⟩, rfl, rfl⟩
  · rintro ⟨n, rfl, rfl⟩
    have hread : natural? (n.digits.map digitChar) = some (ofDigits n.digits) :=
      natural?_eq_some_iff.2 ⟨n.digits, n.digits_ne_nil, rfl, rfl⟩
    rw [Numeral.chars, integer?_chars_append fun _ => n.unsigned_digits, hread]
    rfl

theorem isSome_integer?_iff {s : List Char} :
    (integer? s).isSome ↔ ∃ n : Numeral, n.chars = s := by
  rw [Option.isSome_iff_exists]
  simp only [integer?_eq_some_iff]
  exact ⟨fun ⟨_, n, hn, _⟩ => ⟨n, hn⟩, fun ⟨n, hn⟩ => ⟨_, n, hn, rfl⟩⟩

/-- A numeral is read as a word if and only if its number fits, and exactly. -/
theorem word?_chars (n : Numeral) :
    word? n.chars = if FitsWord n.value then some n.value else none := by
  rw [word?, integer?_eq_some_iff.2 ⟨n, rfl, rfl⟩]
  simp [Option.filter]

end CommandLine.Decimal
