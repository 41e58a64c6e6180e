import CommandLine.Proofs.Binding.Given
import CommandLine.Proofs.Decimal.Number

/-!
# Options and positionals

Sorting arguments loses nothing, invents nothing and keeps the order: of the arguments before the
first `--`, the options are the option tokens and the positionals all others, followed by what
stands behind the `--` (`ofArguments_exact`). Which arguments are options is `IsOption`, and an
option is read off its token without loss (`raw_eq_of_ofToken?`).
-/

namespace CommandLine

open Decimal (Number isDigit)

namespace OptionToken

/-! ## Tokens -/

/-- A token with two dashes in front is an option, and so is one with a single dash and something
behind it, unless it is a number that has a digit or a point behind its sign. -/
def IsOption (token : String) : Prop :=
  (∃ body, token.toList = '-' :: '-' :: body) ∨
    ∃ c rest, token.toList = '-' :: c :: rest ∧ c ≠ '-' ∧
      ¬ (Number token.toList ∧ (isDigit c ∨ c = '.'))

theorem isNegativeNumber_iff {c : Char} {rest : List Char} :
    isNegativeNumber ('-' :: c :: rest) ↔ Number ('-' :: c :: rest) ∧ (isDigit c ∨ c = '.') := by
  rw [isNegativeNumber, Bool.and_eq_true, Bool.or_eq_true, beq_iff_eq, and_comm]
  exact and_congr_left fun hc => (Decimal.number_minus_iff hc rest).symm

theorem isSome_ofToken?_iff {token : String} : (ofToken? token).isSome ↔ IsOption token := by
  unfold ofToken? IsOption
  rw [Option.isSome_map]
  unfold body?
  split
  · rename_i body htoken
    exact ⟨fun _ => .inl ⟨body, htoken⟩, fun _ => rfl⟩
  · rename_i c rest hsecond htoken
    have hc : c ≠ '-' := fun h => hsecond h
    rw [htoken]
    split
    · rename_i hnumber
      rw [isNegativeNumber_iff] at hnumber
      refine ⟨nofun, fun h => ?_⟩
      obtain ⟨body, hbody⟩ | ⟨c', rest', hrest, -, hnot⟩ := h
      · exact absurd (List.cons.inj (List.cons.inj hbody).2).1 hc
      · obtain rfl := (List.cons.inj (List.cons.inj hrest).2).1
        exact absurd hnumber hnot
    · rename_i hnumber
      rw [isNegativeNumber_iff] at hnumber
      exact ⟨fun _ => .inr ⟨c, rest, rfl, hc, hnumber⟩, fun _ => rfl⟩
  · rename_i hdouble hsingle
    refine ⟨nofun, fun h => ?_⟩
    obtain ⟨body, hbody⟩ | ⟨c, rest, hrest, -⟩ := h
    · exact absurd hbody (hdouble body)
    · exact absurd hrest (hsingle c rest)

instance : DecidablePred IsOption := fun _ => decidable_of_iff _ isSome_ofToken?_iff

/-- The dashes in front of an option token. -/
def dashes (token : String) : String :=
  if ['-', '-'] <+: token.toList then "--" else "-"

/-- A value as it is written behind the name of an option. -/
def valueText : Option String → String
  | some value => "=" ++ value
  | none => ""

theorem toList_eq_of_body? {token : String} {body : List Char}
    (h : body? token.toList = some body) :
    token.toList = (dashes token).toList ++ body := by
  unfold body? at h
  unfold dashes
  split at h
  · rename_i htoken
    obtain rfl := Option.some.inj h
    simp [htoken]
  · rename_i c rest hsecond htoken
    split at h
    · cases h
    · obtain rfl := Option.some.inj h
      have hc : '-' ≠ c := fun h => hsecond h.symm
      simp [htoken, hc]
  · cases h

/-- An option is its token taken apart: the dashes, the name, and the value behind an `=`. -/
theorem raw_eq_of_ofToken? {token : String} {t : OptionToken} (h : ofToken? token = some t) :
    t.raw = dashes t.raw ++ t.name ++ valueText t.value? := by
  have hraw := raw_of_ofToken? h
  unfold ofToken? at h
  obtain ⟨body, hbody, ht⟩ := Option.map_eq_some_iff.1 h
  have htoken := toList_eq_of_body? hbody
  rw [hraw]
  refine String.toList_injective ?_
  rw [htoken]
  split at ht
  · rename_i name value hcut
    rw [← ht]
    simp [valueText, (Text.cutAt?_eq_some_iff.1 hcut).1]
  · rw [← ht]
    simp [valueText]

end OptionToken

namespace Partition

open OptionToken

/-! ## Lists of tokens -/

/-- The tokens before the first `--` are sorted one by one, and those behind it are left alone. -/
theorem ofArguments_eq (arguments : List String) :
    ofArguments arguments =
      ⟨⟨(arguments.takeWhile (· ≠ "--")).filterMap ofToken?⟩,
        (arguments.takeWhile (· ≠ "--")).filter (fun token => (ofToken? token).isNone) ++
          (arguments.dropWhile (· ≠ "--")).tail⟩ := by
  induction arguments with
  | nil => rfl
  | cons token rest ih =>
    by_cases hend : token = "--"
    · simp [ofArguments, hend]
    · rw [ofArguments_cons hend, ih]
      cases hoption : ofToken? token <;> simp [hend, hoption]

theorem isNone_ofToken?_eq (token : String) :
    (ofToken? token).isNone = decide (¬ IsOption token) := by
  rw [Bool.eq_iff_iff, decide_eq_true_eq, ← isSome_ofToken?_iff, Option.isNone_iff_eq_none,
    Option.not_isSome_iff_eq_none]

theorem map_raw_ofToken? (token : String) :
    (ofToken? token).map (·.raw) = Option.guard (IsOption ·) token := by
  cases hoption : ofToken? token with
  | none =>
    have hnot : ¬ IsOption token := by simp [← isSome_ofToken?_iff, hoption]
    simp [Option.guard, hnot]
  | some option =>
    have his : IsOption token := isSome_ofToken?_iff.1 (hoption ▸ rfl)
    simp [Option.guard, his, raw_of_ofToken? hoption]

/-- A dash takes one byte, so a text can be cut right behind the dash that it starts with. -/
theorem isValid_of_head? {token : String} (h : token.toList.head? = some '-') :
    (⟨1⟩ : String.Pos.Raw).IsValid token := by
  refine String.Pos.Raw.isValid_iff_exists_append.2 ⟨"-", String.ofList token.toList.tail, ?_, rfl⟩
  refine String.toList_injective ?_
  rw [List.eq_cons_of_mem_head? h]
  simp

/-- **Sorting is exact.** The positionals are the arguments before the first `--` that are no
options, and then all behind it; the options are what else stands before it, both in their order.
Each option says what its token says, and nobody has taken it. No token is cut inside of a
character. Arguments without `--` are sorted apart from what follows them. -/
theorem ofArguments_exact (arguments : List String) :
    (ofArguments arguments).positionals =
      (arguments.takeWhile (· ≠ "--")).filter (¬ IsOption ·) ++
        (arguments.dropWhile (· ≠ "--")).tail ∧
    (ofArguments arguments).options.tokens.map (·.raw) =
      (arguments.takeWhile (· ≠ "--")).filter (IsOption ·) ∧
    (∀ t ∈ (ofArguments arguments).options.tokens,
      t.raw = dashes t.raw ++ t.name ++ valueText t.value? ∧ '=' ∉ t.name.toList ∧
        t.taken = false) ∧
    (∀ token ∈ arguments, token.toList.head? = some '-' →
      (⟨1⟩ : String.Pos.Raw).IsValid token) ∧
    ("--" ∉ arguments → ∀ rest, ofArguments (arguments ++ rest) =
      ⟨⟨(ofArguments arguments).options.tokens ++ (ofArguments rest).options.tokens⟩,
        (ofArguments arguments).positionals ++ (ofArguments rest).positionals⟩) := by
  refine ⟨?_, ?_, fun t ht => ?_, fun token _ => isValid_of_head?, ofArguments_append⟩
  · rw [ofArguments_eq]
    simp only [isNone_ofToken?_eq]
  · rw [ofArguments_eq, List.map_filterMap]
    simp only [map_raw_ofToken?]
    exact congrFun List.filterMap_eq_filter _
  · obtain ⟨token, -, htoken⟩ := exists_ofToken?_of_mem ht
    exact ⟨raw_eq_of_ofToken? htoken, notMem_name_of_ofToken? htoken, fresh_ofArguments _ t ht⟩

/-- A third dash and a number too large for a double, a value that starts with an `=`, a single
dash, an option without name, and one with a name of two bytes. -/
def mixedSample : List String := ["---x", "-1e999", "--==v", "-", "-=", "-é=1", "-1x"]

/-- Sorted alone, and in front of what ends the options. -/
theorem ofArguments_exact_mixed :
    ofArguments mixedSample =
        ⟨⟨[⟨"-x", none, "---x", false⟩, ⟨"", some "=v", "--==v", false⟩, ⟨"", some "", "-=", false⟩,
            ⟨"é", some "1", "-é=1", false⟩, ⟨"1x", none, "-1x", false⟩]⟩,
          ["-1e999", "-"]⟩ ∧
      (⟨"é", some "1", "-é=1", false⟩ ∈ (ofArguments mixedSample).options.tokens ∧
        "-é=1" = dashes "-é=1" ++ "é" ++ valueText (some "1")) ∧
      ("-é=1" ∈ mixedSample ∧ (⟨1⟩ : String.Pos.Raw).IsValid "-é=1") ∧
      "--" ∉ mixedSample ∧
      (ofArguments (mixedSample ++ ["-.5", "--", "--y", "--"])).positionals =
        ["-1e999", "-", "-.5", "--y", "--"] := by
  obtain ⟨-, -, htokens, hvalid, happend⟩ := ofArguments_exact mixedSample
  have hsorted : ofArguments mixedSample =
      ⟨⟨[⟨"-x", none, "---x", false⟩, ⟨"", some "=v", "--==v", false⟩, ⟨"", some "", "-=", false⟩,
          ⟨"é", some "1", "-é=1", false⟩, ⟨"1x", none, "-1x", false⟩]⟩,
        ["-1e999", "-"]⟩ := by decide
  have htoken : ⟨"é", some "1", "-é=1", false⟩ ∈ (ofArguments mixedSample).options.tokens := by
    simp [hsorted]
  have hmem : "-é=1" ∈ mixedSample := by decide
  have hnot : "--" ∉ mixedSample := by decide
  refine ⟨hsorted, ⟨htoken, (htokens _ htoken).1⟩, ⟨hmem, hvalid _ hmem (by decide)⟩, hnot, ?_⟩
  rw [happend hnot]
  decide

end Partition

end CommandLine
