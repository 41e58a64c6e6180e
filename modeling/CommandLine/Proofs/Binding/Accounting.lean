import CommandLine.Proofs.Binding.Remaining

/-!
# Accounts of a pool

A pool is asked for tokens again and again, and each answer depends on what has been asked before.
`OptionPool.due` says what a fresh pool owes for a request, given the names that have been taken; no
other trace of the past is left (`serve_without`). So the answers to any requests, and the tokens
that are left, are known from the names in the requests alone (`serve_accounted`).
-/

namespace CommandLine

namespace OptionPool

/-! ## Requests -/

/-- What a pool can be asked. -/
inductive Request where
  | take (name : String)
  | containsAny (names : List String)
  | ensureConsumed

/-- What a pool answers. -/
inductive Answer where
  | token (token? : Option OptionToken)
  | found (b : Bool)
  | checked (result : Except Fault Unit)

/-- The names that a request takes. -/
def Request.takes : Request → List String
  | take name => [name]
  | containsAny _ | ensureConsumed => []

/-- The names that requests take, in their order. -/
def takenNames (requests : List Request) : List String := requests.flatMap Request.takes

theorem takenNames_cons (request : Request) (rest : List Request) :
    takenNames (request :: rest) = request.takes ++ takenNames rest :=
  List.flatMap_cons ..

/-- The answer to a request, and the pool that is left. -/
def answer (pool : OptionPool) : Request → Answer × OptionPool
  | .take name => (.token (pool.take name).1, (pool.take name).2)
  | .containsAny names => (.found (pool.containsAny names), pool)
  | .ensureConsumed => (.checked pool.ensureConsumed, pool)

/-- The answers to requests, one after the other, and the pool that is left. -/
def serve (pool : OptionPool) : List Request → List Answer × OptionPool
  | [] => ([], pool)
  | request :: rest =>
    let (first, left) := pool.answer request
    let (others, left) := left.serve rest
    (first :: others, left)

/-! ## Accounts -/

/-- What a pool owes for a request when the names `seen` have been taken: the last token of a name
that has not been taken, and whether there are tokens of other names than those. -/
def due (pool : OptionPool) (seen : List String) : Request → Answer
  | .take name => .token (if name ∈ seen then none else pool.last? name)
  | .containsAny names =>
    .found (decide (∃ t ∈ pool.tokens, t.name ∈ names ∧ t.name ∉ seen))
  | .ensureConsumed => .checked (match pool.tokens.find? (·.name ∉ seen) with
    | none => .ok ()
    | some t => .error (.unknownOption t.raw))

/-- What a pool owes for each of the requests. -/
def dues (pool : OptionPool) : List String → List Request → List Answer
  | _, [] => []
  | seen, request :: rest => pool.due seen request :: pool.dues (seen ++ request.takes) rest

variable {pool : OptionPool}

theorem take_fst_without (hfresh : pool.Fresh) (seen : List String) (name : String) :
    ((pool.without seen).take name).1 = if name ∈ seen then none else pool.last? name := by
  have homitted : ((pool.omitting seen).take name).1 = (pool.omitting seen).last? name := by
    have htake := take_without (hfresh.omitting seen) (List.not_mem_nil (a := name))
    rw [without_nil] at htake
    exact congrArg Prod.fst htake
  rw [← take_fst_remaining, remaining_without hfresh, homitted, last?_omitting]

theorem containsAny_without_eq (hfresh : pool.Fresh) (seen names : List String) :
    (pool.without seen).containsAny names =
      decide (∃ t ∈ pool.tokens, t.name ∈ names ∧ t.name ∉ seen) := by
  have homitted : ((pool.omitting seen).without []).containsAny names =
      decide ((pool.omitting seen).Names names) :=
    containsAny_without (hfresh.omitting seen) fun _ _ => List.not_mem_nil
  rw [without_nil] at homitted
  rw [← containsAny_remaining, remaining_without hfresh, homitted]
  exact decide_eq_decide.2 names_omitting_iff

/-- One request: the pool gives what it owes, and no name counts as taken but those that were, and
the one that the request takes. -/
theorem answer_without (hfresh : pool.Fresh) (seen : List String) (request : Request) :
    (pool.without seen).answer request =
      (pool.due seen request, pool.without (seen ++ request.takes)) := by
  cases request with
  | take name =>
    rw [answer, due, take_fst_without hfresh, snd_take, without_without]
    rfl
  | containsAny names =>
    rw [answer, due, containsAny_without_eq hfresh, Request.takes, List.append_nil]
  | ensureConsumed =>
    have hleft : pool.without seen = pool.without (seen ++ Request.ensureConsumed.takes) := by
      rw [Request.takes, List.append_nil]
    exact Prod.ext (congrArg Answer.checked (ensureConsumed_without hfresh seen)) hleft

theorem serve_without (hfresh : pool.Fresh) (seen : List String) (requests : List Request) :
    (pool.without seen).serve requests =
      (pool.dues seen requests, pool.without (seen ++ takenNames requests)) := by
  induction requests generalizing seen with
  | nil =>
    rw [takenNames, List.flatMap_nil, List.append_nil]
    rfl
  | cons request rest ih =>
    rw [serve, answer_without hfresh]
    dsimp only
    rw [ih, takenNames_cons, ← List.append_assoc]
    rfl

/-! ## Exchanged requests -/

theorem take_comm {a b : String} (h : a ≠ b) (pool : OptionPool) :
    ((pool.take a).2.take b).1 = (pool.take b).1 ∧
      ((pool.take a).2.take b).2 = ((pool.take b).2.take a).2 := by
  refine ⟨congrArg List.getLast? (available_take (Ne.symm h) pool), ?_⟩
  rw [snd_take, snd_take, snd_take, snd_take, without_without, without_without]
  exact without_congr (fun n => by simp [or_comm]) pool

/-- **Accounts of a pool.** Whatever the pool of an argument list is asked, in whatever order, each
answer is what it owes, given the names taken before; the tokens of all other names are left, in
their order, and takes of different names can be exchanged. -/
theorem serve_accounted (arguments : List String) (requests : List Request) :
    let pool := (Partition.ofArguments arguments).options
    let (answers, left) := pool.serve requests
    answers = pool.dues [] requests ∧
      left.unconsumed = (pool.tokens.filter (·.name ∉ takenNames requests)).map (·.raw) ∧
      ∀ a b, a ≠ b → ∃ first second settled,
        left.serve [.take a, .take b] = ([first, second], settled) ∧
        left.serve [.take b, .take a] = ([second, first], settled) := by
  have hfresh := Partition.fresh_ofArguments arguments
  generalize (Partition.ofArguments arguments).options = pool at hfresh
  have hserve : pool.serve requests =
      (pool.dues [] requests, pool.without (takenNames requests)) := by
    have h := serve_without hfresh [] requests
    rwa [without_nil, List.nil_append] at h
  intro _
  rw [hserve]
  refine ⟨rfl, unconsumed_without hfresh _, fun a b h => ?_⟩
  generalize pool.without (takenNames requests) = left
  obtain ⟨hb, hleft⟩ := take_comm h left
  obtain ⟨ha, -⟩ := take_comm h.symm left
  refine ⟨.token (left.take a).1, .token (left.take b).1, ((left.take a).2.take b).2, ?_, ?_⟩
  · simp only [serve, answer, hb]
  · simp only [serve, answer, ha, hleft]

/-- The last token of a name is given once, and the first one that is left is the flag. -/
theorem serve_accounted_levels :
    let pool := (Partition.ofArguments ["--level=1", "-v", "--level=3", "x"]).options
    let (answers, left) := pool.serve
      [.take "level", .containsAny ["level", "v"], .take "level", .ensureConsumed]
    answers = [.token (some ⟨"level", some "3", "--level=3", false⟩), .found true, .token none,
        .checked (.error (.unknownOption "-v"))] ∧
      left.unconsumed = ["-v"] ∧ "v" ≠ "level" ∧ ∃ first second settled,
        left.serve [.take "v", .take "level"] = ([first, second], settled) ∧
        left.serve [.take "level", .take "v"] = ([second, first], settled) := by
  obtain ⟨hanswers, hleft, hcomm⟩ := serve_accounted ["--level=1", "-v", "--level=3", "x"]
    [.take "level", .containsAny ["level", "v"], .take "level", .ensureConsumed]
  exact ⟨hanswers, hleft, by decide, hcomm "v" "level" (by decide)⟩

end OptionPool

end CommandLine
