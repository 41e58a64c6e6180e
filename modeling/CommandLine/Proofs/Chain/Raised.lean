import CommandLine.Chain
import CommandLine.Proofs.Fallible

/-!
# Where the faults of a chain come from

The fault of a chain is raised by the action, or by an interceptor that ends with it and has not got
it from the rest of the chain, or it is one of the three that the chain itself has.
`raises_of_start`: there is nothing else.
-/

namespace CommandLine.Chain

/-- The fault is raised while an interceptor is run: by the interceptor itself, which ends with it
though it has not got it from other stages, or in the stages that it enters. -/
def RaisedBy (command : Command) (enter : Nat → Run) (raised : Nat → Context → Prop)
    (fault : Fault) : (got : Prop) → Interceptor → Context → Prop
  | got, .finish result, _ => result = .error fault ∧ ¬ got
  | got, .look next, c => RaisedBy command enter raised fault got (next (c.view command)) c
  | got, .edit change next, c =>
    RaisedBy command enter raised fault got next { c with arguments := change c.arguments }
  | got, .report note next, c =>
    RaisedBy command enter raised fault got next (c.record (.reported note))
  | got, .proceed next, c =>
    raised (c.stage + 1) { c with stage := c.stage + 1 } ∨
      match enter (c.stage + 1) { c with stage := c.stage + 1 } with
      | (result, after) =>
        RaisedBy command enter raised fault (got ∨ result = .error fault) (next result)
          { after with stage := c.stage }
  | got, .restart next, c =>
    raised 0 { c with stage := 0 } ∨
      match enter 0 { c with stage := 0 } with
      | (result, after) =>
        RaisedBy command enter raised fault (got ∨ result = .error fault) (next result) after

/-- The fault is raised from a stage on, where at most `depth` stages are open at a time. -/
def RaisedFrom (chain : Chain) (fault : Fault) : (depth stage : Nat) → Context → Prop
  | 0, _, _ => False
  | depth + 1, stage, c =>
    match chain.command.interceptors[stage]? with
    | none => (chain.command.action c.arguments).result = .error (.fault fault)
    | some reference =>
      match chain.find? reference with
      | none => False
      | some interceptor =>
        RaisedBy chain.command (chain.enter depth) (chain.RaisedFrom fault depth) fault False
          interceptor (c.record (.entered stage reference))

/-- The fault is raised by the action or an interceptor in the run of a chain. -/
def Raises (chain : Chain) (arguments : List Value) (fault : Fault) : Prop :=
  chain.RaisedFrom fault chain.depthLimit 0 { arguments }

/-- The faults that a chain itself has. -/
inductive OwnFault (chain : Chain) : Fault → Prop
  | tooDeep : OwnFault chain (tooDeep chain.command)
  | unresolvedInterceptor (reference : String) :
      OwnFault chain (.unresolvedInterceptor chain.command.name reference)
  /-- The action fails in its own words. -/
  | execution (cause : String) : OwnFault chain (.execution chain.command.name cause)

/-- An interceptor that answers with a fault has got it or raised it, or it was raised in the stages
that it entered. -/
theorem raisedBy_of_perform {command : Command} {enter : Nat → Run}
    {raised : Nat → Context → Prop} {fault : Fault}
    (henter : ∀ stage c, (enter stage c).1 = .error fault → raised stage c)
    (interceptor : Interceptor) {got : Prop} {c : Context}
    (h : (perform command enter interceptor c).1 = .error fault) :
    got ∨ RaisedBy command enter raised fault got interceptor c := by
  -- what the interceptor has got grows on the way
  induction interceptor generalizing got c with
  | finish result =>
    by_cases hgot : got
    · exact .inl hgot
    · exact .inr ⟨h, hgot⟩
  | look next ih => exact ih _ h
  | edit change next ih => exact ih h
  | report note next ih => exact ih h
  | proceed next ih =>
    let answer := (enter (c.stage + 1) { c with stage := c.stage + 1 }).1
    obtain (hgot | hanswer) | hnext : (got ∨ answer = .error fault) ∨ _ := ih answer h
    · exact .inl hgot
    · exact .inr (.inl (henter _ _ hanswer))
    · exact .inr (.inr hnext)
  | restart next ih =>
    let answer := (enter 0 { c with stage := 0 }).1
    obtain (hgot | hanswer) | hnext : (got ∨ answer = .error fault) ∨ _ := ih answer h
    · exact .inl hgot
    · exact .inr (.inl (henter _ _ hanswer))
    · exact .inr (.inr hnext)

theorem fault_of_act {chain : Chain} {fault : Fault} {c : Context}
    (h : (act chain.command c).1 = .error fault) :
    (chain.command.action c.arguments).result = .error (.fault fault) ∨ chain.OwnFault fault := by
  unfold act at h
  rcases hreply : chain.command.action c.arguments with ⟨result, notes⟩
  simp only [hreply] at h
  obtain ⟨failure, rfl, hfailure⟩ := Except.mapError_eq_error_iff.1 h
  cases failure with
  | fault raised =>
    obtain rfl : raised = fault := hfailure
    exact .inl rfl
  | described cause =>
    obtain rfl : .execution chain.command.name cause = fault := hfailure
    exact .inr (.execution cause)

/-- The fault of a stage is raised from there on, unless it is one of the chain itself. -/
theorem raisedFrom_of_enter {chain : Chain} {fault : Fault} (hown : ¬ chain.OwnFault fault)
    {depth stage : Nat} {c : Context} (h : (chain.enter depth stage c).1 = .error fault) :
    chain.RaisedFrom fault depth stage c := by
  induction depth generalizing stage c with
  | zero =>
    obtain rfl : tooDeep chain.command = fault := Except.error.inj h
    exact absurd .tooDeep hown
  | succ depth ih =>
    rw [enter] at h
    rw [RaisedFrom]
    cases hreference : chain.command.interceptors[stage]? with
    | none =>
      simp only [hreference] at h
      exact (fault_of_act h).resolve_right hown
    | some reference =>
      simp only [hreference] at h
      cases hfound : chain.find? reference with
      | none =>
        simp only [hfound] at h
        obtain rfl := Except.error.inj h
        exact absurd (.unresolvedInterceptor reference) hown
      | some interceptor =>
        simp only [hfound] at h ⊢
        exact (raisedBy_of_perform (fun _ _ => ih) interceptor h).resolve_left id

/-- A chain answers with a fault of its own, or with one that the action or an interceptor has
raised. -/
theorem raises_of_start {chain : Chain} {arguments : List Value} {fault : Fault}
    (h : (chain.start arguments).1 = .error fault) :
    chain.OwnFault fault ∨ chain.Raises arguments fault := by
  by_cases hown : chain.OwnFault fault
  · exact .inl hown
  · exact .inr (raisedFrom_of_enter hown h)

end CommandLine.Chain
