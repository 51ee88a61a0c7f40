import Lineflow.Proofs.FanOutBatch
import Lineflow.Proofs.Itinerary

/-! # Workflows over corresponding states

If the functions of two workflows give the same answers and keep a relation between their states,
so do their steps, their batches and their runs. A workflow whose functions also keep a record is
compared in this way with the one that keeps none.
-/
namespace Lineflow

variable {σ τ ε ε' α β : Type} {R : σ → τ → Prop}

/-! ## Jobs -/

namespace Job

/-- From related states the jobs give the same answer, and they end in related states. -/
def Related (R : σ → τ → Prop) (job : Job σ ε α) (twin : Job τ ε α) : Prop :=
  ∀ s t, R s t → ∃ r s' t', Job.runOn job s = (r, s') ∧ Job.runOn twin t = (r, t') ∧ R s' t'

theorem related_pure (a : α) : Related R (pure a : Job σ ε α) (pure a) :=
  fun s t h => ⟨.ok a, s, t, rfl, rfl, h⟩

theorem related_throw (e : ε) : Related R (throw e : Job σ ε α) (throw e) :=
  fun s t h => ⟨.error e, s, t, rfl, rfl, h⟩

theorem related_lift (x : Except ε α) : Related R (liftM x : Job σ ε α) (liftM x) :=
  fun s t h => ⟨x, s, t, run_on_lift x s, run_on_lift x t, h⟩

theorem related_bind {job : Job σ ε α} {twin : Job τ ε α} {f : α → Job σ ε β} {g : α → Job τ ε β}
    (h : Related R job twin) (hf : ∀ a, Related R (f a) (g a)) :
    Related R (job >>= f) (twin >>= g) := by
  intro s t hst
  obtain ⟨r, s', t', hjob, htwin, hst'⟩ := h s t hst
  rw [run_on_bind, run_on_bind, hjob, htwin]
  cases r with
  | error e => exact ⟨.error e, s', t', rfl, rfl, hst'⟩
  | ok a => exact hf a s' t' hst'

theorem related_adapt {job : Job σ ε α} {twin : Job τ ε α} (h : Related R job twin)
    (f : ε → ε') :
    Related R (ExceptT.adapt f job : Job σ ε' α) (ExceptT.adapt f twin) := by
  intro s t hst
  obtain ⟨r, s', t', hjob, htwin, hst'⟩ := h s t hst
  rw [run_on_adapt, run_on_adapt, hjob, htwin]
  exact ⟨_, s', t', rfl, rfl, hst'⟩

end Job

/-! ## Steps -/

inductive Poll.Related (R : σ → τ → Prop) : Poll σ → Poll τ → Prop where
  | mk {name seconds holds holds'} (alike : ∀ x, Job.Related R (holds x) (holds' x)) :
      Poll.Related R ⟨name, seconds, holds⟩ ⟨name, seconds, holds'⟩

inductive KeySource.Related (R : σ → τ → Prop) : KeySource σ → KeySource τ → Prop where
  | function {name f g} (alike : ∀ x, Job.Related R (f x) (g x)) :
      KeySource.Related R (.function name f) (.function name g)
  | context : KeySource.Related R .context .context

inductive FanOut.Related (R : σ → τ → Prop) : FanOut σ → FanOut τ → Prop where
  | mk {reduce keys keys'} (sources : KeySource.Related R keys keys') :
      FanOut.Related R ⟨reduce, keys⟩ ⟨reduce, keys'⟩

inductive Work.Related (R : σ → τ → Prop) : Work σ → Work τ → Prop where
  | pass : Work.Related R .pass .pass
  | call {name f g} (alike : ∀ x, Job.Related R (f x) (g x)) :
      Work.Related R (.call name f) (.call name g)
  | reduce {name f g} (alike : ∀ x values, Job.Related R (f x values) (g x values)) :
      Work.Related R (.reduce name f) (.reduce name g)
  | iterate {name f g} (alike : ∀ x key, Job.Related R (f x key) (g x key)) :
      Work.Related R (.iterate name f) (.iterate name g)

/-- Steps that differ in the bodies of their functions alone. -/
inductive Step.Related (R : σ → τ → Prop) : Step σ → Step τ → Prop where
  | mk {index name statement next wait poll poll' fanOut fanOut' work work'}
      (polls : Option.Rel (Poll.Related R) poll poll')
      (feeds : Option.Rel (FanOut.Related R) fanOut fanOut') (works : Work.Related R work work') :
      Step.Related R ⟨index, name, statement, next, wait, poll, fanOut, work⟩
        ⟨index, name, statement, next, wait, poll', fanOut', work'⟩

namespace Step.Related

open Job

variable {step : Step σ} {twin : Step τ} {names : List String} {ctx : Context}

theorem name_eq (h : Step.Related R step twin) : twin.name = step.name := by
  cases h
  rfl

theorem is_loop_eq (h : Step.Related R step twin) : twin.isLoop = step.isLoop := by
  cases h
  rfl

theorem next_eq (h : Step.Related R step twin) : twin.next = step.next := by
  cases h
  rfl

theorem gather (h : Step.Related R step twin) {keys : KeySource σ} {keys' : KeySource τ}
    (hkeys : KeySource.Related R keys keys') :
    Job.Related R (step.gather ctx keys) (twin.gather ctx keys') := by
  cases h
  cases hkeys with
  | function alike => exact related_adapt (alike ctx.result) _
  | context => exact related_bind (related_lift _) fun _ => related_pure _

theorem perform (h : Step.Related R step twin) (result : Json) (keys : Option (List Json)) :
    Job.Related R (step.perform names ctx result keys) (twin.perform names ctx result keys) := by
  cases h with
  | mk _ _ works =>
    cases works with
    | pass => exact related_lift _
    | call alike =>
      exact related_bind (related_adapt (alike result) _) fun _ => related_lift _
    | reduce alike =>
      exact related_bind (related_lift _) fun values =>
        related_bind (related_adapt (alike result values) _) fun _ => related_lift _
    | iterate alike =>
      exact related_bind (related_lift _) fun key =>
        related_bind (related_adapt (alike result key) _) fun _ => related_lift _

theorem proceed (h : Step.Related R step twin) :
    Job.Related R (step.proceed names ctx) (twin.proceed names ctx) := by
  -- Taking `h` apart turns both steps into records, so what it says of their parts comes first.
  have hperform : ∀ result keys, Job.Related R (step.perform names ctx result keys)
      (twin.perform names ctx result keys) := h.perform
  have hgather : ∀ keys keys', KeySource.Related R keys keys' →
      Job.Related R (step.gather ctx keys) (twin.gather ctx keys') := fun _ _ => h.gather
  cases h with
  | mk _ feeds _ =>
    cases feeds with
    | none => exact hperform ctx.result none
    | some fanOut =>
      cases fanOut with
      | mk sources =>
        refine related_bind (hgather _ _ sources) ?_
        rintro ⟨result, keys⟩
        dsimp only
        split
        · exact related_lift _
        · exact hperform result (some keys)

theorem invoke (h : Step.Related R step twin) :
    Job.Related R (step.invoke names ctx) (twin.invoke names ctx) := by
  have hproceed : Job.Related R (step.proceed names ctx) (twin.proceed names ctx) := h.proceed
  cases h with
  | mk polls _ _ =>
    cases polls with
    | none => exact hproceed
    | some poll =>
      cases poll with
      | mk alike =>
        refine related_bind (related_adapt (alike ctx.result) _) ?_
        intro holds
        cases holds with
        | true => exact hproceed
        | false => exact related_pure _

end Step.Related

/-! ## Batches -/

namespace Batch

variable {w : Workflow σ} {twin : Workflow τ} {step : Step σ} {step' : Step τ}

section Workers

variable (hnames : twin.names = w.names) (h : Step.Related R step step') (ctx : Context)

include hnames h

theorem worker_related (key : Json) {s : σ} {t : τ} (hst : R s t) :
    outcomeIn twin step' ctx key t = outcomeIn w step ctx key s ∧
      R ((worker w step ctx key).run s).2 ((worker twin step' ctx key).run t).2 := by
  have hinvoke : Job.Related R (step.invoke w.names (ctx.forKey key))
      (step'.invoke w.names (ctx.forKey key)) := h.invoke
  obtain ⟨r, s', t', hjob, htwin, hst'⟩ := hinvoke s t hst
  rw [outcomeIn, outcomeIn, worker_run, worker_run, answerIn, answerIn, Workflow.invoke,
    Workflow.invoke, hnames, hjob, htwin, h.name_eq]
  exact ⟨rfl, hst'⟩

theorem outcomes_related (keys : List Json) {s : σ} {t : τ} (hst : R s t) :
    ((outcomes twin step' ctx keys).run t).1 = ((outcomes w step ctx keys).run s).1 ∧
      R ((outcomes w step ctx keys).run s).2 ((outcomes twin step' ctx keys).run t).2 := by
  induction keys generalizing s t with
  | nil => exact ⟨rfl, hst⟩
  | cons key keys ih =>
    obtain ⟨hout, hst'⟩ := worker_related hnames h ctx key hst
    obtain ⟨hrest, hend⟩ := ih hst'
    rw [outcomes_cons, outcomes_cons, hout, hrest]
    exact ⟨rfl, hend⟩

/-- The join reads the names of the steps and the outcomes alone. -/
theorem join_related (failFast : Bool) (order : List Nat) (outcomes : List WorkerOutcome) :
    join twin step' ctx failFast order outcomes = join w step ctx failFast order outcomes := by
  cases h
  simp only [join, conclude, hnames]

theorem run_related (pool : Nat) (failFast : Bool) (order : Nat → List Nat) :
    Job.Related R (run w step ctx pool failFast order)
      (run twin step' ctx pool failFast order) := by
  intro s t hst
  cases hkeys : ctx.keys with
  | none =>
    rw [run_no_keys hkeys, run_no_keys hkeys, h.name_eq]
    exact ⟨_, s, t, rfl, rfl, hst⟩
  | some keys =>
    by_cases hne : keys = []
    · subst hne
      rw [run_empty hkeys, run_empty hkeys, h.next_eq]
      exact ⟨_, s, t, rfl, rfl, hst⟩
    by_cases hpool : largestPool < pool
    · rw [run_pool_too_large hkeys hne hpool, run_pool_too_large hkeys hne hpool]
      exact ⟨_, s, t, rfl, rfl, hst⟩
    obtain ⟨hout, hend⟩ := outcomes_related hnames h ctx keys hst
    rw [run_nonempty hkeys hne (by omega), run_nonempty hkeys hne (by omega), hout,
      join_related hnames h]
    exact ⟨_, _, _, rfl, rfl, hend⟩

end Workers

end Batch

/-! ## Runs -/

namespace Workflow

open Job

variable {w : Workflow σ} {twin : Workflow τ} {settings : SimulatorSettings} {schedule : Schedule}

theorem transition_related (hnames : twin.names = w.names) {step : Step σ} {step' : Step τ}
    (h : Step.Related R step step') (order : Nat → List Nat) (ctx : Context) :
    Job.Related R (w.transition settings order step ctx)
      (twin.transition settings order step' ctx) := by
  cases hloop : step.isLoop with
  | true =>
    rw [transition_batch hloop, transition_batch (h.is_loop_eq.trans hloop)]
    exact Batch.run_related hnames h ctx _ _ _
  | false =>
    rw [transition_step hloop, transition_step (h.is_loop_eq.trans hloop), invoke, invoke, hnames]
    exact h.invoke

/-- The steps of two workflows are related one by one. -/
def Related (R : σ → τ → Prop) (w : Workflow σ) (twin : Workflow τ) : Prop :=
  ∀ i : Nat, Option.Rel (Step.Related R) w.steps[i]? twin.steps[i]?

namespace Related

variable (h : Workflow.Related R w twin)

include h

theorem names_eq : twin.names = w.names := by
  apply List.ext_getElem?
  intro i
  have hstep := h i
  rw [names, names, List.getElem?_map, List.getElem?_map]
  generalize w.steps[i]? = left, twin.steps[i]? = right at hstep ⊢
  cases hstep with
  | none => rfl
  | some step => exact congrArg some step.name_eq

theorem visit (run : Run) (index : Nat) :
    Job.Related R (w.visit settings schedule run index)
      (twin.visit settings schedule run index) := by
  have hnames := h.names_eq
  have hstep := h index
  unfold Workflow.visit
  generalize w.steps[index]? = left, twin.steps[index]? = right at hstep ⊢
  cases hstep with
  | none => exact related_throw _
  | some step =>
    refine related_bind (transition_related hnames step _ _) ?_
    intro t
    rw [step.name_eq]
    exact related_pure _

theorem drive (bound : Nat) (run : Run) :
    Job.Related R (w.drive settings schedule bound run)
      (twin.drive settings schedule bound run) := by
  induction bound generalizing run with
  | zero =>
    unfold Workflow.drive
    cases run.context.action with
    | finish => exact related_pure _
    | step index => exact related_pure _
  | succ bound ih =>
    unfold Workflow.drive
    cases run.context.action with
    | finish => exact related_pure _
    | step index => exact related_bind (h.visit run index) ih

theorem simulate (bound : Nat) (initial : Json) :
    Job.Related R (w.simulate settings schedule bound initial)
      (twin.simulate settings schedule bound initial) :=
  h.drive bound (.start w.entry initial)

/-- Both runs stop at the same steps, with the same contexts. -/
theorem stops (bound : Nat) (run : Run) {s : σ} {t : τ} (hst : R s t) :
    (twin.stops settings schedule bound run t).map (fun stop => (stop.index, stop.context)) =
      (w.stops settings schedule bound run s).map fun stop => (stop.index, stop.context) := by
  induction bound generalizing run s t with
  | zero => rfl
  | succ bound ih =>
    cases haction : run.context.action with
    | finish => rw [stops_finish haction, stops_finish haction]; rfl
    | step index =>
      obtain ⟨r, s', t', hvisit, htwin, hst'⟩ := h.visit run index s t hst
      cases r with
      | error e => rw [stops_broken haction hvisit, stops_broken haction htwin]; rfl
      | ok run' =>
        rw [stops_visit haction hvisit, stops_visit haction htwin, List.map_cons, List.map_cons,
          ih run' hst']

end Related

end Workflow

end Lineflow
