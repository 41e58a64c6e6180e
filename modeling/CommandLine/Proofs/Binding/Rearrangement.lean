import CommandLine.Proofs.Binding.Rules
import Mathlib.Logic.Relation

/-!
# Rearranged arguments

Binding asks for the next positional, and for the option tokens of a name. So it cannot tell apart
two argument lists with the same positionals and, name by name, the same option tokens.
`bind_rearranged`: it answers the same for both, whatever is declared, but for the token that an
unknown option is reported by. Neighbours may be exchanged as long as they are not both positionals
and not two options of one name.
-/

namespace CommandLine

/-! ## Pools that look alike -/

namespace OptionPool

/-- The tokens of each name are the same, in the same order. -/
def Alike (pool pool' : OptionPool) : Prop :=
  ∀ name, pool.tokens.filter (·.name == name) = pool'.tokens.filter (·.name == name)

theorem available_eq (pool : OptionPool) (name : String) :
    pool.available name = (pool.tokens.filter (·.name == name)).filter fun t => !t.taken := by
  rw [available, List.filter_filter]

theorem filter_take (pool : OptionPool) (name other : String) :
    (pool.take name).2.tokens.filter (·.name == other) =
      (pool.tokens.filter (·.name == other)).map fun t =>
        if t.name = name then { t with taken := true } else t := by
  have hname : ∀ t : OptionToken,
      (if t.name = name then { t with taken := true } else t).name = t.name := by
    intro t
    split <;> rfl
  unfold take
  simp only [List.filter_map, Function.comp_def, hname]

namespace Alike

variable {pool pool' : OptionPool}

theorem take_fst (h : Alike pool pool') (name : String) :
    (pool.take name).1 = (pool'.take name).1 := by
  show (pool.available name).getLast? = (pool'.available name).getLast?
  rw [available_eq, available_eq, h name]

theorem take_snd (h : Alike pool pool') (name : String) :
    Alike (pool.take name).2 (pool'.take name).2 := by
  intro other
  rw [filter_take, filter_take, h other]

theorem mem_iff (h : Alike pool pool') (t : OptionToken) : t ∈ pool.tokens ↔ t ∈ pool'.tokens := by
  have hname : ∀ tokens : List OptionToken,
      t ∈ tokens ↔ t ∈ tokens.filter (·.name == t.name) := by simp
  rw [hname pool.tokens, hname pool'.tokens, h t.name]

theorem containsAny_eq (h : Alike pool pool') (names : List String) :
    pool.containsAny names = pool'.containsAny names := by
  rw [Bool.eq_iff_iff]
  simp only [containsAny, List.any_eq_true, h.mem_iff]

theorem unconsumed_eq_nil_iff (h : Alike pool pool') :
    pool.unconsumed = [] ↔ pool'.unconsumed = [] := by
  simp only [unconsumed, List.map_eq_nil_iff, List.filter_eq_nil_iff, h.mem_iff]

end Alike

end OptionPool

/-- The same positionals are left, and pools that look alike. -/
structure Supply.Alike (s s' : Supply) : Prop where
  options : s.options.Alike s'.options
  positionals : s.positionals = s'.positionals

/-! ## Binding sees no difference -/

namespace Binder

/-- The same value, and supplies that look alike, or the same fault. -/
inductive Agree {α : Type} :
    Except Fault (α × Supply) → Except Fault (α × Supply) → Prop
  | ok (value : α) {left left' : Supply} (h : left.Alike left') :
      Agree (.ok (value, left)) (.ok (value, left'))
  | error (fault : Fault) : Agree (.error fault) (.error fault)

namespace Agree

variable {α β : Type} {x y : Except Fault (α × Supply)}

theorem map (h : Agree x y) (f : α → β) :
    Agree (x.map fun r => (f r.1, r.2)) (y.map fun r => (f r.1, r.2)) := by
  cases h with
  | ok value hleft => exact .ok (f value) hleft
  | error fault => exact .error fault

theorem bind {f : α × Supply → Except Fault (β × Supply)} (h : Agree x y)
    (hf : ∀ value {left left'}, left.Alike left' → Agree (f (value, left)) (f (value, left'))) :
    Agree (x.bind f) (y.bind f) := by
  cases h with
  | ok value hleft => exact hf value hleft
  | error fault => exact .error fault

theorem of_value (value : Except Fault α) {left left' : Supply} (h : left.Alike left') :
    Agree (value.map fun a => (a, left)) (value.map fun a => (a, left')) := by
  cases value with
  | ok a => exact .ok a h
  | error fault => exact .error fault

end Agree

mutual

/-- One parameter takes the same from supplies that look alike. -/
theorem agree_parameter (b : Binder) (index : Nat) (p : Parameter) {s s' : Supply}
    (h : s.Alike s') : Agree (b.parameter index p s) (b.parameter index p s') := by
  match p with
  | .plain a type =>
    rw [parameter, parameter, h.positionals]
    exact .of_value _ ⟨h.options, rfl⟩
  | .option a type =>
    have htoken := h.options.take_fst a.name
    have hleft := h.options.take_snd a.name
    rw [parameter, parameter]
    dsimp only
    rw [htoken]
    exact .of_value _ ⟨hleft, h.positionals⟩
  | .bean a type members =>
    rw [parameter, parameter, h.options.containsAny_eq]
    split
    · exact .ok Value.null h
    · exact (agree_parameters b 0 members h).map fun values =>
        Value.bean type ((members.map (·.name)).zip values)
  | .internal a =>
    rw [parameter, parameter]
    exact .ok _ h

theorem agree_parameters (b : Binder) (index : Nat) (l : List Parameter) {s s' : Supply}
    (h : s.Alike s') : Agree (b.parameters index l s) (b.parameters index l s') := by
  match l with
  | [] =>
    rw [parameters, parameters]
    exact .ok [] h
  | p :: rest =>
    rw [parameters, parameters]
    refine (agree_parameter b index p h).bind fun value left left' hleft => ?_
    exact (agree_parameters b (index + 1) rest hleft).map fun values => value :: values

end

/-- The same values or the same fault; of unknown options each is as good as any other. -/
def SameAnswer {α : Type} (x y : Except Fault α) : Prop :=
  x = y ∨ ∃ token token', x = .error (.unknownOption token) ∧ y = .error (.unknownOption token')

/-- Pools that look alike are both used up, or each has an option left that nobody knows. -/
theorem ensureConsumed_alike {pool pool' : OptionPool} (h : pool.Alike pool') :
    (pool.ensureConsumed = .ok () ∧ pool'.ensureConsumed = .ok ()) ∨
      ∃ token token', pool.ensureConsumed = .error (.unknownOption token) ∧
        pool'.ensureConsumed = .error (.unknownOption token') := by
  have hnil := h.unconsumed_eq_nil_iff
  unfold OptionPool.ensureConsumed
  cases hleft : pool.unconsumed with
  | nil =>
    rw [hnil.1 hleft]
    exact .inl ⟨rfl, rfl⟩
  | cons token rest =>
    cases hleft' : pool'.unconsumed with
    | nil =>
      rw [hnil.2 hleft'] at hleft
      cases hleft
    | cons token' rest' => exact .inr ⟨token, token', rfl, rfl⟩

end Binder

/-! ## Argument lists -/

/-- Two argument lists with the same positionals and, for each name, the same option tokens. -/
structure Rearranged (arguments arguments' : List String) : Prop where
  positionals : (Partition.ofArguments arguments).positionals
    = (Partition.ofArguments arguments').positionals
  options : ∀ name,
    (Partition.ofArguments arguments).options.tokens.filter (·.name == name) =
      (Partition.ofArguments arguments').options.tokens.filter (·.name == name)

namespace Rearranged

variable {arguments arguments' arguments'' : List String}

theorem refl (arguments : List String) : Rearranged arguments arguments := ⟨rfl, fun _ => rfl⟩

theorem trans (h : Rearranged arguments arguments') (h' : Rearranged arguments' arguments'') :
    Rearranged arguments arguments'' where
  positionals := h.positionals.trans h'.positionals
  options name := (h.options name).trans (h'.options name)

theorem sameAnswer_bind (h : Rearranged arguments arguments') (b : Binder)
    (declared : List Parameter) :
    Binder.SameAnswer (b.bind declared arguments) (b.bind declared arguments') := by
  have hsupply : (Supply.ofArguments arguments).Alike (.ofArguments arguments') :=
    ⟨h.options, h.positionals⟩
  have hparameters := b.agree_parameters 0 declared hsupply
  rw [Binder.bind_eq, Binder.bind_eq]
  generalize b.parameters 0 declared _ = x at hparameters ⊢
  generalize b.parameters 0 declared _ = y at hparameters ⊢
  cases hparameters with
  | error fault => exact .inl rfl
  | ok values hleft =>
    simp only [Except.bind]
    obtain ⟨hused, hused'⟩ | ⟨token, token', hunknown, hunknown'⟩ :=
      Binder.ensureConsumed_alike hleft.options
    · rw [hused, hused', hleft.positionals]
      exact .inl rfl
    · rw [hunknown, hunknown']
      exact .inr ⟨token, token', rfl, rfl⟩

end Rearranged

/-! ## Exchanging neighbours -/

namespace Partition

theorem ofArguments_append {before : List String} (h : "--" ∉ before) (rest : List String) :
    ofArguments (before ++ rest) =
      ⟨⟨(ofArguments before).options.tokens ++ (ofArguments rest).options.tokens⟩,
        (ofArguments before).positionals ++ (ofArguments rest).positionals⟩ := by
  induction before with
  | nil => rfl
  | cons token before ih =>
    obtain ⟨htoken, hbefore⟩ : "--" ≠ token ∧ "--" ∉ before := by simpa using h
    rw [List.cons_append, ofArguments, ofArguments, if_neg htoken.symm, if_neg htoken.symm,
      ih hbefore]
    cases OptionToken.ofToken? token <;> rfl

theorem ofArguments_cons {token : String} (h : token ≠ "--") (rest : List String) :
    ofArguments (token :: rest) =
      match OptionToken.ofToken? token with
      | some option => ⟨⟨option :: (ofArguments rest).options.tokens⟩,
          (ofArguments rest).positionals⟩
      | none => ⟨(ofArguments rest).options, token :: (ofArguments rest).positionals⟩ := by
  cases hoption : OptionToken.ofToken? token <;> simp [ofArguments, h, hoption]

end Partition

/-- Two arguments that are not both positionals, and not two options of one name. -/
def MayPass (x y : String) : Prop :=
  match OptionToken.ofToken? x, OptionToken.ofToken? y with
  | some option, some option' => option.name ≠ option'.name
  | some _, none | none, some _ => True
  | none, none => False

/-- Two neighbours that may pass each other are exchanged, in front of any `--`. -/
inductive Exchange : List String → List String → Prop
  | neighbours {before after : List String} {x y : String} (hbefore : "--" ∉ before)
      (hx : x ≠ "--") (hy : y ≠ "--") (hpass : MayPass x y) :
      Exchange (before ++ x :: y :: after) (before ++ y :: x :: after)

theorem Rearranged.append {arguments arguments' before : List String} (hbefore : "--" ∉ before)
    (h : Rearranged arguments arguments') :
    Rearranged (before ++ arguments) (before ++ arguments') where
  positionals := by
    rw [Partition.ofArguments_append hbefore, Partition.ofArguments_append hbefore]
    exact congrArg ((Partition.ofArguments before).positionals ++ ·) h.positionals
  options name := by
    rw [Partition.ofArguments_append hbefore, Partition.ofArguments_append hbefore,
      List.filter_append, List.filter_append, h.options name]

/-- An option passes what is no option, and an option of another name. -/
theorem MayPass.rearranged {x y : String} (h : MayPass x y) (hx : x ≠ "--") (hy : y ≠ "--")
    (after : List String) : Rearranged (x :: y :: after) (y :: x :: after) := by
  unfold MayPass at h
  cases hoption : OptionToken.ofToken? x with
  | none =>
    cases hoption' : OptionToken.ofToken? y with
    | none => simp [hoption, hoption'] at h
    | some option' =>
      constructor <;>
        simp [Partition.ofArguments_cons hx, Partition.ofArguments_cons hy, hoption, hoption']
  | some option =>
    cases hoption' : OptionToken.ofToken? y with
    | none =>
      constructor <;>
        simp [Partition.ofArguments_cons hx, Partition.ofArguments_cons hy, hoption, hoption']
    | some option' =>
      have hnames : option.name ≠ option'.name := by simpa [hoption, hoption'] using h
      constructor
      · simp [Partition.ofArguments_cons hx, Partition.ofArguments_cons hy, hoption, hoption']
      · intro name
        simp only [Partition.ofArguments_cons hx, Partition.ofArguments_cons hy, hoption, hoption']
        by_cases hname : option.name = name
        · have hname' : option'.name ≠ name := hname ▸ hnames.symm
          simp [hname, hname']
        · simp [List.filter_cons, hname]

theorem Exchange.rearranged {arguments arguments' : List String}
    (h : Exchange arguments arguments') : Rearranged arguments arguments' := by
  obtain ⟨hbefore, hx, hy, hpass⟩ := h
  exact (hpass.rearranged hx hy _).append hbefore

theorem rearranged_of_exchanges {arguments arguments' : List String}
    (h : Relation.ReflTransGen Exchange arguments arguments') :
    Rearranged arguments arguments' := by
  induction h with
  | refl => exact .refl _
  | tail _ hlast ih => exact ih.trans hlast.rearranged

/-- **Rearranged arguments.** Whatever is declared, binding answers the same for two argument lists
with the same positionals and, for each name, the same option tokens; but of two unknown options
another one may be named. In particular nothing comes of exchanging neighbours, as often as one
likes, that are not both positionals and not two options of one name. -/
theorem bind_rearranged (b : Binder) (declared : List Parameter)
    (arguments arguments' : List String) :
    (Rearranged arguments arguments' →
      Binder.SameAnswer (b.bind declared arguments) (b.bind declared arguments')) ∧
    (Relation.ReflTransGen Exchange arguments arguments' →
      Binder.SameAnswer (b.bind declared arguments) (b.bind declared arguments')) :=
  ⟨fun h => h.sameAnswer_bind b declared,
    fun h => (rearranged_of_exchanges h).sameAnswer_bind b declared⟩

/-- Parameters of which two have the same name, so that no registry accepts them. -/
def levelsSample : List Parameter :=
  [.plain { name := "target" } ⟨.text, false⟩, .option { name := "level" } ⟨.text, false⟩,
    .bean { name := "proxy", nillable := true } "Proxy"
      [.option { name := "host" } ⟨.text, true⟩, .option { name := "level" } ⟨.text, true⟩]]

/-- The tokens of two names and a positional change places, and two unknown options do. -/
theorem bind_rearranged_levels :
    Rearranged ["--level=1", "web", "--host=a", "--level=2"]
        ["--host=a", "--level=1", "--level=2", "web"] ∧
      Binder.bind ⟨∅, ⟨[], ∅⟩, ∅⟩ levelsSample ["--host=a", "--level=1", "--level=2", "web"] =
        .ok [.text "web", .text "2", .bean "Proxy" [("host", .text "a"), ("level", .null)]] ∧
      Relation.ReflTransGen Exchange ["web", "--level=1", "-x", "-y"]
        ["web", "-y", "--level=1", "-x"] ∧
      Binder.bind ⟨∅, ⟨[], ∅⟩, ∅⟩ levelsSample ["web", "--level=1", "-x", "-y"] =
        .error (.unknownOption "-x") ∧
      ∃ token, Binder.bind ⟨∅, ⟨[], ∅⟩, ∅⟩ levelsSample ["web", "-y", "--level=1", "-x"] =
        .error (.unknownOption token) := by
  have hrearranged : Rearranged ["--level=1", "web", "--host=a", "--level=2"]
      ["--host=a", "--level=1", "--level=2", "web"] := by
    have hhost : Exchange ["--level=1", "web", "--host=a", "--level=2"]
        ["--level=1", "--host=a", "web", "--level=2"] :=
      @Exchange.neighbours ["--level=1"] ["--level=2"] "web" "--host=a" (by decide) (by decide)
        (by decide) trivial
    have hfront : Exchange ["--level=1", "--host=a", "web", "--level=2"]
        ["--host=a", "--level=1", "web", "--level=2"] :=
      @Exchange.neighbours [] ["web", "--level=2"] "--level=1" "--host=a" (by decide) (by decide)
        (by decide) (by decide : "level" ≠ "host")
    have hweb : Exchange ["--host=a", "--level=1", "web", "--level=2"]
        ["--host=a", "--level=1", "--level=2", "web"] :=
      @Exchange.neighbours ["--host=a", "--level=1"] [] "web" "--level=2" (by decide) (by decide)
        (by decide) trivial
    exact (hhost.rearranged.trans hfront.rearranged).trans hweb.rearranged
  have hexchange : Relation.ReflTransGen Exchange ["web", "--level=1", "-x", "-y"]
      ["web", "-y", "--level=1", "-x"] := by
    have hlast : Exchange ["web", "--level=1", "-x", "-y"] ["web", "--level=1", "-y", "-x"] :=
      @Exchange.neighbours ["web", "--level=1"] [] "-x" "-y" (by decide) (by decide) (by decide)
        (by decide : "x" ≠ "y")
    have hmiddle : Exchange ["web", "--level=1", "-y", "-x"] ["web", "-y", "--level=1", "-x"] :=
      @Exchange.neighbours ["web"] ["-x"] "--level=1" "-y" (by decide) (by decide) (by decide)
        (by decide : "level" ≠ "y")
    exact .tail (.tail .refl hlast) hmiddle
  have hlevels := (bind_rearranged ⟨∅, ⟨[], ∅⟩, ∅⟩ levelsSample _ _).1 hrearranged
  have hunknown := (bind_rearranged ⟨∅, ⟨[], ∅⟩, ∅⟩ levelsSample _ _).2 hexchange
  have hfirst : Binder.bind ⟨∅, ⟨[], ∅⟩, ∅⟩ levelsSample
      ["--level=1", "web", "--host=a", "--level=2"] =
        .ok [.text "web", .text "2", .bean "Proxy" [("host", .text "a"), ("level", .null)]] := rfl
  have hsecond : Binder.bind ⟨∅, ⟨[], ∅⟩, ∅⟩ levelsSample ["web", "--level=1", "-x", "-y"] =
      .error (.unknownOption "-x") := rfl
  refine ⟨hrearranged, ?_, hexchange, hsecond, ?_⟩
  · rw [hfirst] at hlevels
    obtain heq | ⟨token, token', ⟨⟩, -⟩ := hlevels
    exact heq.symm
  · rw [hsecond] at hunknown
    obtain heq | ⟨token, token', -, htoken⟩ := hunknown
    · exact ⟨_, heq.symm⟩
    · exact ⟨token', htoken⟩

end CommandLine
