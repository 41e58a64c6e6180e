import CommandLine.Proofs.Chain.Record

/-!
# The stage in the context

To proceed is to enter the stage after the one in the context, so it matters which one that is
while an interceptor runs. It is the place of the interceptor, until the interceptor restarts the
chain: the first stage stays in the context then, and the interceptor proceeds from there.
`stage_recorded` says so for each step of a chain; `againSample` is a chain in which an
interceptor is entered anew by its own proceeding.
-/

namespace CommandLine.Chain

/-- The stage from which an interceptor at a place proceeds. -/
def standpoint (place : Nat) (restarted : Bool) : Nat := if restarted then 0 else place

/-- The steps of interceptors are taken from their standpoints. -/
def Deed.Stands : Deed → Prop
  | stood place restarted stage => stage = standpoint place restarted
  | proceeded place restarted stage => stage = standpoint place restarted + 1
  | edited _ | happened _ => True

/-- All steps of a record are taken from their standpoints, and the first stage or the given one is
left in the context. -/
structure Record.StandsAt (r : Record) (stage : Nat) : Prop where
  stands : ∀ deed ∈ r.deeds, deed.Stands
  stage_eq : r.context.stage = 0 ∨ r.context.stage = stage

namespace Record.StandsAt

theorem after {r : Record} {stage : Nat} {deeds : List Deed} (h : r.StandsAt stage)
    (hdeeds : ∀ deed ∈ deeds, deed.Stands) : (r.after deeds).StandsAt stage where
  stands deed hmem := (List.mem_append.1 hmem).elim (hdeeds deed) (h.stands deed)
  stage_eq := h.stage_eq

theorem andThen {r : Record} {next : Except Fault Value → Context → Record} {stage : Nat}
    (hr : ∀ deed ∈ r.deeds, deed.Stands) (hnext : (next r.result r.context).StandsAt stage) :
    (r.andThen next).StandsAt stage :=
  hnext.after hr

theorem stage_zero {r : Record} (h : r.StandsAt 0) : r.context.stage = 0 := h.stage_eq.elim id id

end Record.StandsAt

/-- One interceptor: a proceeding is undone in the context, and a restart leaves the first stage. -/
theorem standsAt_performRecorded {command : Command} {enter : Nat → Context → Record}
    (henter : ∀ c, (enter c.stage c).StandsAt c.stage) {place : Nat} {restarted : Bool}
    (interceptor : Interceptor) {c : Context} (hc : c.stage = standpoint place restarted) :
    (performRecorded command enter place restarted interceptor c).StandsAt place := by
  have hstep : (Deed.stood place restarted c.stage).Stands := hc
  induction interceptor generalizing restarted c with
  | finish result =>
    refine ⟨by simpa [performRecorded] using hstep, ?_⟩
    show c.stage = 0 ∨ c.stage = place
    cases restarted
    · exact .inr hc
    · exact .inl hc
  | look next ih => exact (ih _ hc hstep).after (by simpa using hstep)
  | edit change next ih =>
    exact (ih (c := { c with arguments := change c.arguments }) hc hstep).after
      (by simpa [Deed.Stands] using hstep)
  | report note next ih =>
    exact (ih (c := c.record (.reported note)) hc hstep).after
      (by simpa [Deed.Stands] using hstep)
  | proceed next ih =>
    have hinner := henter { c with stage := c.stage + 1 }
    have hproceeds : (Deed.proceeded place restarted (c.stage + 1)).Stands :=
      congrArg (· + 1) hc
    refine (Record.StandsAt.andThen hinner.stands (ih _ ?_ ?_)).after ?_
    · exact hc
    · exact hstep
    · rintro deed (_ | ⟨_, _ | ⟨_, ⟨⟩⟩⟩)
      · exact hstep
      · exact hproceeds
  | restart next ih =>
    have hinner := henter { c with stage := 0 }
    have hzero := hinner.stage_zero
    refine (Record.StandsAt.andThen hinner.stands (ih _ ?_ ?_)).after (by simpa using hstep)
    · exact hzero
    · exact hzero

theorem standsAt_enterRecorded (chain : Chain) (depth : Nat) (c : Context) :
    (chain.enterRecorded depth c.stage c).StandsAt c.stage := by
  induction depth generalizing c with
  | zero => exact ⟨by simp [enterRecorded], .inr rfl⟩
  | succ depth ih =>
    rw [enterRecorded]
    cases chain.command.interceptors[c.stage]? with
    | none =>
      refine ⟨fun deed hdeed => ?_, .inr rfl⟩
      obtain ⟨event, -, rfl⟩ := List.mem_map.1 hdeed
      trivial
    | some reference =>
      dsimp only
      cases chain.find? reference with
      | none => exact ⟨by simp, .inr rfl⟩
      | some interceptor =>
        have hentered :
            (c.record (.entered c.stage reference)).stage = standpoint c.stage false := rfl
        have hentry : ∀ deed ∈ [Deed.happened (.entered c.stage reference)], deed.Stands := by
          simp [Deed.Stands]
        exact (standsAt_performRecorded ih interceptor hentered).after hentry

/-- **Standpoints.** In the run of a chain, each interceptor takes its steps while its own place is
in the context, or the first one if it has restarted the chain, and proceeds into the stage after
that one. At the end the first stage is in the context. -/
theorem stage_recorded (chain : Chain) (arguments : List Value) :
    (chain.recorded arguments).run = chain.start arguments ∧
      (∀ place restarted stage,
        .stood place restarted stage ∈ (chain.recorded arguments).deeds →
          stage = if restarted then 0 else place) ∧
      (∀ place restarted stage,
        .proceeded place restarted stage ∈ (chain.recorded arguments).deeds →
          stage = (if restarted then 0 else place) + 1) ∧
      (chain.start arguments).2.stage = 0 := by
  have hstands : (chain.recorded arguments).StandsAt 0 :=
    standsAt_enterRecorded chain chain.depthLimit { arguments }
  refine ⟨run_recorded .., fun place restarted stage hmem => hstands.stands _ hmem,
    fun place restarted stage hmem => hstands.stands _ hmem, ?_⟩
  rw [← run_recorded, Record.context_run, hstands.stage_zero]

/-- Restarts the chain if there are no arguments, and gives it one; then proceeds. -/
def again : Interceptor :=
  .look fun view =>
    if view.arguments.isEmpty then .edit (fun _ => [.null]) (.restart fun _ => .proceed .finish)
    else .proceed .finish

/-- An interceptor at the second place restarts the chain. -/
def againSample : Chain where
  command :=
    { name := "greet", target := ⟨"Sample", "greet", none⟩,
      action := fun arguments => { result := .ok (.int arguments.length) },
      interceptors := ["outer", "again"] }
  interceptors := (∅ : Interceptors).register "outer" .passThrough |>.register "again" again

/-- After its restart the interceptor at place 1 is run while the first stage is in the context, and
it proceeds into the stage after that, which is its own. -/
theorem restart_againSample :
    (¬ ∀ place restarted stage,
        .stood place restarted stage ∈ (againSample.recorded []).deeds → stage = place) ∧
      ¬ ∀ place restarted stage,
        .proceeded place restarted stage ∈ (againSample.recorded []).deeds →
          stage = place + 1 := by
  have hstood : (againSample.recorded []).deeds[18]? = some (.stood 1 true 0) := rfl
  have hproceeded : (againSample.recorded []).deeds[19]? = some (.proceeded 1 true 1) := rfl
  constructor
  · intro hstage
    exact absurd (hstage 1 true 0 (List.mem_of_getElem? hstood)) (by decide)
  · intro hstage
    exact absurd (hstage 1 true 1 (List.mem_of_getElem? hproceeded)) (by decide)

end CommandLine.Chain
