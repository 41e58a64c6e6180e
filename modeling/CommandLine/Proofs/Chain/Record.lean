import CommandLine.Chain

/-!
# The record of a chain

The events of a chain leave out what is done in silence: the steps of the interceptors, and their
edits of the arguments. `Chain.recorded` runs a chain and writes down all of it. The record changes
nothing (`run_recorded`), its events are those of the chain (`events_recorded`), and it accounts
for the arguments: `invoked_recorded`, the action is run on what the edits before it have made of
the first arguments.
-/

namespace CommandLine.Chain

/-- What is done in a chain. -/
inductive Deed where
  /-- The interceptor at a place takes a step while the context names a stage. It has restarted the
  chain before, or it has not. -/
  | stood (place : Nat) (restarted : Bool) (stage : Nat)
  /-- The interceptor at a place proceeds, by entering a stage. -/
  | proceeded (place : Nat) (restarted : Bool) (stage : Nat)
  | edited (change : List Value → List Value)
  | happened (event : Event)

/-- The event, unless the deed is a silent one. -/
def Deed.events : Deed → List Event
  | happened event => [event]
  | _ => []

theorem flatMap_happened (events : List Event) :
    (events.map Deed.happened).flatMap Deed.events = events := by
  induction events with
  | nil => rfl
  | cons event rest ih => simp [Deed.events, ih]

/-- A run with its deeds, in their order. -/
structure Record where
  result : Except Fault Value
  context : Context
  deeds : List Deed

namespace Record

/-- The run alone. -/
def run (r : Record) : Except Fault Value × Context := (r.result, r.context)

/-- The events among the deeds. -/
def events (r : Record) : List Event := r.deeds.flatMap Deed.events

/-- The record with some earlier deeds. -/
def after (deeds : List Deed) (r : Record) : Record := { r with deeds := deeds ++ r.deeds }

/-- The record goes on with what comes next. -/
def andThen (r : Record) (next : Except Fault Value → Context → Record) : Record :=
  (next r.result r.context).after r.deeds

theorem result_run (r : Record) : r.run.1 = r.result := rfl

theorem context_run (r : Record) : r.run.2 = r.context := rfl

@[simp] theorem context_after (deeds : List Deed) (r : Record) :
    (r.after deeds).context = r.context := rfl

@[simp] theorem events_after (deeds : List Deed) (r : Record) :
    (r.after deeds).events = deeds.flatMap Deed.events ++ r.events :=
  List.flatMap_append

end Record

/-! ## Recording -/

/-- Runs an interceptor at a place, given how a stage is entered. -/
def performRecorded (command : Command) (enter : Nat → Context → Record) (place : Nat) :
    Bool → Interceptor → Context → Record
  | restarted, .finish result, c => ⟨result, c, [.stood place restarted c.stage]⟩
  | restarted, .look next, c =>
    (performRecorded command enter place restarted (next (c.view command)) c).after
      [.stood place restarted c.stage]
  | restarted, .edit change next, c =>
    (performRecorded command enter place restarted next
      { c with arguments := change c.arguments }).after
      [.stood place restarted c.stage, .edited change]
  | restarted, .report note next, c =>
    (performRecorded command enter place restarted next (c.record (.reported note))).after
      [.stood place restarted c.stage, .happened (.reported note)]
  | restarted, .proceed next, c =>
    ((enter (c.stage + 1) { c with stage := c.stage + 1 }).andThen fun result after =>
      performRecorded command enter place restarted (next result)
        { after with stage := c.stage }).after
      [.stood place restarted c.stage, .proceeded place restarted (c.stage + 1)]
  | restarted, .restart next, c =>
    ((enter 0 { c with stage := 0 }).andThen fun result after =>
      performRecorded command enter place true (next result) after).after
      [.stood place restarted c.stage]

/-- Runs the action of a command on the arguments. -/
def actRecorded (command : Command) (c : Context) : Record where
  result := (act command c).1
  context := (act command c).2
  deeds := (.invoked c.arguments :: (command.action c.arguments).notes.map .reported).map .happened

/-- Enters a stage. At most `depth` stages are open at a time. -/
def enterRecorded (chain : Chain) : Nat → Nat → Context → Record
  | 0, _, c => ⟨.error (tooDeep chain.command), c, []⟩
  | depth + 1, stage, c =>
    match chain.command.interceptors[stage]? with
    | none => actRecorded chain.command c
    | some reference =>
      match chain.find? reference with
      | none => ⟨.error (.unresolvedInterceptor chain.command.name reference), c, []⟩
      | some interceptor =>
        (performRecorded chain.command (enterRecorded chain depth) stage false interceptor
          (c.record (.entered stage reference))).after [.happened (.entered stage reference)]

/-- Runs a chain from its first stage. -/
def recorded (chain : Chain) (arguments : List Value) : Record :=
  chain.enterRecorded chain.depthLimit 0 { arguments }

/-! ## The record changes nothing -/

theorem run_performRecorded {command : Command} {enter : Nat → Run}
    {enter' : Nat → Context → Record} (henter : ∀ stage c, (enter' stage c).run = enter stage c)
    (place : Nat) (restarted : Bool) (interceptor : Interceptor) (c : Context) :
    (performRecorded command enter' place restarted interceptor c).run
      = perform command enter interceptor c := by
  induction interceptor generalizing restarted c with
  | finish result => rfl
  | look next ih => exact ih _ restarted c
  | edit change next ih => exact ih restarted _
  | report note next ih => exact ih restarted _
  | proceed next ih =>
    rw [perform, ← henter]
    exact ih _ restarted _
  | restart next ih =>
    rw [perform, ← henter]
    exact ih _ true _

theorem run_enterRecorded (chain : Chain) (depth stage : Nat) (c : Context) :
    (chain.enterRecorded depth stage c).run = chain.enter depth stage c := by
  induction depth generalizing stage c with
  | zero => rfl
  | succ depth ih =>
    rw [enterRecorded, enter]
    cases chain.command.interceptors[stage]? with
    | none => rfl
    | some reference =>
      dsimp only
      cases chain.find? reference with
      | none => rfl
      | some interceptor => exact run_performRecorded ih stage false interceptor _

/-- The recorded run is the run. -/
theorem run_recorded (chain : Chain) (arguments : List Value) :
    (chain.recorded arguments).run = chain.start arguments :=
  run_enterRecorded ..

/-! ## Its events are those of the chain -/

theorem events_andThen (next : Except Fault Value → Context → Record) {r : Record}
    {events : List Event} (hr : r.context.events = events ++ r.events)
    (hnext : (next r.result r.context).context.events
      = r.context.events ++ (next r.result r.context).events) :
    (r.andThen next).context.events = events ++ (r.andThen next).events := by
  show (next r.result r.context).context.events = _
  rw [hnext, hr, List.append_assoc]
  exact congrArg (events ++ ·) List.flatMap_append.symm

theorem events_performRecorded {command : Command} {enter : Nat → Context → Record}
    (henter : ∀ stage c, (enter stage c).context.events = c.events ++ (enter stage c).events)
    (place : Nat) (restarted : Bool) (interceptor : Interceptor) (c : Context) :
    (performRecorded command enter place restarted interceptor c).context.events
      = c.events ++ (performRecorded command enter place restarted interceptor c).events := by
  induction interceptor generalizing restarted c with
  | finish result => simp [performRecorded, Record.events, Deed.events]
  | look next ih => simp [performRecorded, Deed.events, ih]
  | edit change next ih => simp [performRecorded, Deed.events, ih]
  | report note next ih => simp [performRecorded, Deed.events, Context.record, ih]
  | proceed next ih =>
    have hinner := henter (c.stage + 1) { c with stage := c.stage + 1 }
    exact events_andThen (fun result after =>
      performRecorded command enter place restarted (next result) { after with stage := c.stage })
      hinner (ih _ restarted _)
  | restart next ih =>
    have hinner := henter 0 { c with stage := 0 }
    exact events_andThen
      (fun result after => performRecorded command enter place true (next result) after)
      hinner (ih _ true _)

theorem events_enterRecorded (chain : Chain) (depth stage : Nat) (c : Context) :
    (chain.enterRecorded depth stage c).context.events
      = c.events ++ (chain.enterRecorded depth stage c).events := by
  induction depth generalizing stage c with
  | zero => simp [enterRecorded, Record.events]
  | succ depth ih =>
    rw [enterRecorded]
    cases chain.command.interceptors[stage]? with
    | none => simp only [actRecorded, act, Record.events, flatMap_happened]
    | some reference =>
      dsimp only
      cases chain.find? reference with
      | none => simp [Record.events]
      | some interceptor =>
        simp [events_performRecorded ih, Context.record, Deed.events]

theorem events_recorded (chain : Chain) (arguments : List Value) :
    (chain.start arguments).2.events = (chain.recorded arguments).events := by
  have hevents : (chain.recorded arguments).context.events
      = [] ++ (chain.recorded arguments).events :=
    events_enterRecorded chain chain.depthLimit 0 { arguments }
  rw [← run_recorded, Record.context_run, hevents, List.nil_append]

/-! ## It accounts for the arguments -/

/-- What a deed makes of the arguments. -/
def Deed.rewrite : Deed → List Value → List Value
  | edited change => change
  | _ => id

/-- What some deeds make of the arguments. -/
def rewritten (deeds : List Deed) (arguments : List Value) : List Value :=
  deeds.foldl (fun arguments deed => deed.rewrite arguments) arguments

/-- The deeds lead from the arguments before to those after, and each time the action is run, it is
run on the arguments of that moment. -/
structure Accounts (deeds : List Deed) (before after : List Value) : Prop where
  rewritten_eq : rewritten deeds before = after
  invoked_eq : ∀ front seen rest, deeds = front ++ .happened (.invoked seen) :: rest →
    seen = rewritten front before

namespace Accounts

theorem nil (arguments : List Value) : Accounts [] arguments arguments where
  rewritten_eq := rfl
  invoked_eq front seen rest h := by simp at h

theorem append {first second : List Deed} {before between after : List Value}
    (h : Accounts first before between) (h' : Accounts second between after) :
    Accounts (first ++ second) before after where
  rewritten_eq := by
    rw [rewritten, List.foldl_append]
    exact (congrArg (rewritten second) h.rewritten_eq).trans h'.rewritten_eq
  invoked_eq front seen rest hsplit := by
    rcases List.append_eq_append_iff.1 hsplit with ⟨middle, rfl, hsecond⟩ | ⟨middle, hfirst, hrest⟩
    · -- the action is run among the later deeds
      rw [rewritten, List.foldl_append]
      exact (h'.invoked_eq middle seen rest hsecond).trans
        (congrArg (rewritten middle) h.rewritten_eq.symm)
    · cases middle with
      | nil =>
        rw [List.append_nil] at hfirst
        have hseen := h'.invoked_eq [] seen rest hrest.symm
        rw [hseen, ← hfirst]
        exact h.rewritten_eq.symm
      | cons deed middle =>
        obtain ⟨rfl, rfl⟩ : .happened (.invoked seen) = deed ∧ rest = middle ++ second := by
          simpa using hrest
        exact h.invoked_eq front seen middle hfirst

theorem cons {deed : Deed} {deeds : List Deed} {before after : List Value}
    (hdeed : ∀ seen, deed ≠ .happened (.invoked seen))
    (h : Accounts deeds (deed.rewrite before) after) : Accounts (deed :: deeds) before after := by
  have hsingle : Accounts [deed] before (deed.rewrite before) := by
    refine ⟨rfl, fun front seen rest hsplit => ?_⟩
    cases front with
    | nil =>
      rw [List.nil_append, List.cons.injEq] at hsplit
      exact absurd hsplit.1 (hdeed seen)
    | cons other front => simp at hsplit
  exact hsingle.append h

theorem invoked (arguments : List Value) :
    Accounts [.happened (.invoked arguments)] arguments arguments := by
  refine ⟨rfl, fun front seen rest hsplit => ?_⟩
  cases front with
  | nil =>
    obtain ⟨rfl, -⟩ : arguments = seen ∧ [] = rest := by simpa using hsplit
    rfl
  | cons other front => simp at hsplit

theorem reported (notes : List Note) (arguments : List Value) :
    Accounts ((notes.map .reported).map .happened) arguments arguments := by
  induction notes with
  | nil => exact nil arguments
  | cons note notes ih => exact cons (by simp) ih

end Accounts

theorem accounts_performRecorded {command : Command} {enter : Nat → Context → Record}
    (henter : ∀ stage c,
      Accounts (enter stage c).deeds c.arguments (enter stage c).context.arguments)
    (place : Nat) (restarted : Bool) (interceptor : Interceptor) (c : Context) :
    Accounts (performRecorded command enter place restarted interceptor c).deeds c.arguments
      (performRecorded command enter place restarted interceptor c).context.arguments := by
  induction interceptor generalizing restarted c with
  | finish result => exact .cons (by simp) (.nil _)
  | look next ih => exact .cons (by simp) (ih _ restarted c)
  | edit change next ih =>
    have hrest := ih restarted { c with arguments := change c.arguments }
    exact .cons (by simp) (.cons (by simp) hrest)
  | report note next ih => exact .cons (by simp) (.cons (by simp) (ih restarted _))
  | proceed next ih =>
    have hinner := henter (c.stage + 1) { c with stage := c.stage + 1 }
    exact .cons (by simp) (.cons (by simp) (hinner.append (ih _ restarted _)))
  | restart next ih =>
    have hinner := henter 0 { c with stage := 0 }
    exact .cons (by simp) (hinner.append (ih _ true _))

theorem accounts_enterRecorded (chain : Chain) (depth stage : Nat) (c : Context) :
    Accounts (chain.enterRecorded depth stage c).deeds c.arguments
      (chain.enterRecorded depth stage c).context.arguments := by
  induction depth generalizing stage c with
  | zero => exact .nil _
  | succ depth ih =>
    rw [enterRecorded]
    cases chain.command.interceptors[stage]? with
    | none => exact (Accounts.invoked c.arguments).append (.reported _ _)
    | some reference =>
      dsimp only
      cases chain.find? reference with
      | none => exact .nil _
      | some interceptor =>
        exact .cons (by simp) (accounts_performRecorded ih stage false interceptor _)

/-- The action is run on what the edits before it have made of the first arguments. -/
theorem invoked_recorded {chain : Chain} {arguments seen : List Value} {front rest : List Deed}
    (h : (chain.recorded arguments).deeds = front ++ .happened (.invoked seen) :: rest) :
    seen = rewritten front arguments :=
  (accounts_enterRecorded chain chain.depthLimit 0 { arguments }).invoked_eq front seen rest h

end CommandLine.Chain
