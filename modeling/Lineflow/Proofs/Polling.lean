import Lineflow.Proofs.InvocationCounts
import Lineflow.Proofs.SettingsIndependence
import Lineflow.Proofs.StepNames

/-! # Polling

A `wait N until` asks its condition at every visit and does nothing else until the condition holds.
The visit at which it holds does what a single visit would have done. How long a condition fails is
given here by the states that it leaves behind; a condition that breaks off is not the subject.
-/
namespace Lineflow

variable {σ : Type}

def Run.polled (run : Run) (name : String) (seconds j : Nat) : Run where
  context := if j = 0 then run.context else { run.context with wait := seconds }
  trail := List.replicate j ⟨name, seconds⟩ ++ run.trail

section Polled

variable {run : Run} {name : String} {seconds j : Nat}

@[simp] theorem polled_action : (run.polled name seconds j).context.action = run.context.action := by
  unfold Run.polled
  split <;> rfl

@[simp] theorem polled_result : (run.polled name seconds j).context.result = run.context.result := by
  unfold Run.polled
  split <;> rfl

@[simp] theorem polled_keys : (run.polled name seconds j).context.keys = run.context.keys := by
  unfold Run.polled
  split <;> rfl

theorem polled_retry :
    (run.polled name seconds j).after name (.retry seconds) = run.polled name seconds (j + 1) := by
  unfold Run.after Run.polled
  rw [List.replicate_succ]
  split <;> rfl

/-- An advance leaves no trace of the waiting in the context. -/
theorem polled_apply (a : Advance) :
    (run.polled name seconds j).context.apply (.advance a) = run.context.apply (.advance a) := by
  unfold Run.polled
  split <;> rfl

end Polled

/-- The step with a condition that holds at once. -/
def Step.ready (step : Step σ) : Step σ :=
  { step with poll := step.poll.map fun poll => { poll with holds := fun _ => pure true } }

/-- What a `wait N until` proposes when its condition holds: the next step, with the keys in the
context if a `foreach` comes next, or the step after that one if the list of keys is empty. -/
def Plan.due (statements : List Statement) (i : Nat) (ctx : Context) : Except Violation Advance :=
  match entryBefore statements i, ctx.keys with
  | none, _ => .ok { action := .step (i + 1), result := ctx.result }
  | some _, none => .error .noKeysToFanOut
  | some entry, some [] =>
    .ok { action := entry.reduce, result := ctx.result, values := some [] }
  | some _, some keys => .ok { action := .step (i + 1), result := ctx.result, keys := some keys }

def Step.leaves (names : List String) (step : Step σ) (due : Except Violation Advance) :
    Except RunError Transition :=
  match due with
  | .ok a => step.settle names a
  | .error cause => .error (.violation step.name cause)

section Steps

variable {registry : Registry σ} {statements : List Statement} {i : Nat} {step : Step σ}
  {names : List String} {ctx : Context} {st : Statement} {seconds : Nat} {name : String}

/-- No function runs once the condition holds. -/
theorem Compiled.proceed_due (h : Compiled registry statements i step)
    (hst : statements[i]? = some st) (hk : st.kind = .waitUntil seconds name) (u : σ) :
    Job.runOn (step.proceed names ctx) u =
      (step.leaves names (Plan.due statements i ctx), u) := by
  obtain ⟨holds, _, rfl⟩ := h.of_wait_until hst hk
  unfold Plan.due
  cases hentry : Plan.entryBefore statements i with
  | none =>
    rw [Step.proceed_without_keys rfl, Step.perform_pass rfl]
    rfl
  | some entry =>
    rw [Step.proceed_with_context rfl]
    rcases hkeys : ctx.keys with _ | _ | ⟨key, keys⟩
    · rfl
    · rfl
    · dsimp only
      rw [Step.perform_pass rfl]
      rfl

theorem Compiled.ready_invoke (h : Compiled registry statements i step)
    (hst : statements[i]? = some st) (hk : st.kind = .waitUntil seconds name) (u : σ) :
    Job.runOn (step.ready.invoke names ctx) u =
      (step.leaves names (Plan.due statements i ctx), u) := by
  obtain ⟨holds, _, hform⟩ := h.of_wait_until hst hk
  have hpoll : step.ready.poll = some ⟨name, seconds, fun _ => pure true⟩ := by
    rw [hform]
    rfl
  rw [Step.invoke_with_poll hpoll]
  exact h.proceed_due hst hk u

theorem Step.leaves_eq_ok {due : Except Violation Advance} {t : Transition}
    (h : step.leaves names due = .ok t) : ∃ a, t = .advance a := by
  unfold leaves at h
  split at h
  · obtain ⟨action, result, ht⟩ := Step.settle_advance h
    exact ⟨_, ht⟩
  · cases h

end Steps

/-! ## Visits -/

section Visits

variable {program : Program} {registry : Registry σ} {w : Workflow σ}
  {settings : SimulatorSettings} {schedule : Schedule} {run : Run} {i : Nat} {step : Step σ}
  {st : Statement} {seconds : Nat} {name : String} {holds : ConditionFunction σ} {s s' : σ}

theorem Compiled.poll_eq {statements : List Statement} (h : Compiled registry statements i step)
    (hst : statements[i]? = some st) (hk : st.kind = .waitUntil seconds name)
    (hfound : registry.conditions.find? name = some holds) :
    step.poll = some ⟨name, seconds, holds⟩ ∧ step.isLoop = false ∧ step.name = st.stepName := by
  obtain ⟨other, hother, hform⟩ := h.of_wait_until hst hk
  rw [hfound] at hother
  cases hother
  refine ⟨by rw [hform], ?_, h.name_eq hst⟩
  rw [h.is_loop_eq hst, hk]
  rfl

variable (hw : Workflow.compile program registry = .ok w) (hstep : w.steps[i]? = some step)
  (hst : program.statements[i]? = some st) (hk : st.kind = .waitUntil seconds name)
  (hfound : registry.conditions.find? name = some holds)

include hw hstep hst hk hfound

theorem visit_declined (h : Job.runOn (holds run.context.result) s = (.ok false, s')) :
    Job.runOn (w.visit settings schedule run i) s =
      (.ok (run.after st.stepName (.retry seconds)), s') := by
  obtain ⟨hpoll, hloop, hname⟩ := (compile_compiled hw hstep).poll_eq hst hk hfound
  rw [Workflow.visit_run_on hstep, Workflow.transition_step hloop, Workflow.invoke,
    Step.invoke_with_poll hpoll, h, hname]

theorem visit_admitted (h : Job.runOn (holds run.context.result) s = (.ok true, s')) :
    Job.runOn (w.visit settings schedule run i) s =
      match step.leaves w.names (Plan.due program.statements i run.context) with
      | .ok t => (.ok (run.after st.stepName t), s')
      | .error e => (.error e, s') := by
  have hcompiled := compile_compiled hw hstep
  obtain ⟨hpoll, hloop, hname⟩ := hcompiled.poll_eq hst hk hfound
  rw [Workflow.visit_run_on hstep, Workflow.transition_step hloop, Workflow.invoke,
    Step.invoke_with_poll hpoll, h, hname]
  dsimp only
  rw [hcompiled.proceed_due hst hk]
  cases step.leaves w.names (Plan.due program.statements i run.context) <;> rfl

end Visits

/-! ## Whole polls -/

/-- A run polls `k` times in vain and once more: the visits before the last only wait, and the last
comes to `r`. The states are those before each visit. -/
structure Polls (w : Workflow σ) (settings : SimulatorSettings) (schedule : Schedule) (run : Run)
    (name : String) (seconds k : Nat) (state : Nat → σ) (r : Except RunError Transition) (s' : σ) :
    Prop where
  waits : ∀ j ≤ k, Job.runOn (w.iterate settings schedule j run) (state 0) =
    (.ok (run.polled name seconds j), state j)
  ends : Job.runOn (w.iterate settings schedule (k + 1) run) (state 0) =
    match r with
    | .ok t => (.ok {
        context := run.context.apply t
        trail := ⟨name, (run.context.apply t).wait⟩ ::
          List.replicate k ⟨name, seconds⟩ ++ run.trail }, s')
    | .error e => (.error e, s')

section Runs

variable {program : Program} {registry : Registry σ} {w : Workflow σ} {run : Run} {i : Nat}
  {step : Step σ} {st : Statement} {seconds : Nat} {name : String} {holds : ConditionFunction σ}
  {k : Nat} {state : Nat → σ} {s' : σ}

theorem polls_of_answers (hw : Workflow.compile program registry = .ok w)
    (hstep : w.steps[i]? = some step) (hst : program.statements[i]? = some st)
    (hk : st.kind = .waitUntil seconds name) (hfound : registry.conditions.find? name = some holds)
    (hat : run.context.action = .step i)
    (hdeclines : ∀ j < k,
      Job.runOn (holds run.context.result) (state j) = (.ok false, state (j + 1)))
    (hholds : Job.runOn (holds run.context.result) (state k) = (.ok true, s'))
    (settings : SimulatorSettings) (schedule : Schedule) :
    Polls w settings schedule run st.stepName seconds k state
      (step.leaves w.names (Plan.due program.statements i run.context)) s' := by
  have hwaits : ∀ j ≤ k, Job.runOn (w.iterate settings schedule j run) (state 0) =
      (.ok (run.polled st.stepName seconds j), state j) := by
    intro j hj
    induction j with
    | zero => rfl
    | succ j ih =>
      have hran : Job.runOn (holds (run.polled st.stepName seconds j).context.result) (state j) =
          (.ok false, state (j + 1)) := by
        rw [polled_result]
        exact hdeclines j hj
      rw [Workflow.iterate_succ (ih (by omega)), polled_action, hat]
      dsimp only
      rw [visit_declined hw hstep hst hk hfound hran, polled_retry]
  refine ⟨hwaits, ?_⟩
  have hran : Job.runOn (holds (run.polled st.stepName seconds k).context.result) (state k) =
      (.ok true, s') := by
    rw [polled_result]
    exact hholds
  have hdue : Plan.due program.statements i (run.polled st.stepName seconds k).context =
      Plan.due program.statements i run.context := by
    simp only [Plan.due, polled_result, polled_keys]
  rw [Workflow.iterate_succ (hwaits k (Nat.le_refl k)), polled_action, hat]
  dsimp only
  rw [visit_admitted hw hstep hst hk hfound hran, hdue]
  cases hleaves : step.leaves w.names (Plan.due program.statements i run.context) with
  | error e => rfl
  | ok t =>
    obtain ⟨a, rfl⟩ := Step.leaves_eq_ok hleaves
    dsimp only
    rw [Run.after, polled_apply]
    rfl

theorem stops_iterate {settings : SimulatorSettings} {schedule : Schedule} {run' : Run} {j : Nat}
    {s : σ} (h : Job.runOn (w.iterate settings schedule j run) s = (.ok run', s'))
    (hat : run'.context.action = .step i) {bound : Nat} (hlt : j < bound) :
    (w.stops settings schedule bound run s)[j]? = some ⟨i, run'.context, s'⟩ := by
  induction j generalizing run s bound with
  | zero =>
    cases h
    obtain ⟨bound, rfl⟩ := Nat.exists_eq_succ_of_ne_zero (Nat.ne_of_gt hlt)
    rw [← List.head?_eq_getElem?]
    exact Workflow.stops_head hat
  | succ j ih =>
    obtain ⟨bound, rfl⟩ := Nat.exists_eq_succ_of_ne_zero (Nat.ne_of_gt (Nat.lt_of_le_of_lt
      (Nat.zero_le _) hlt))
    cases haction : run.context.action with
    | finish =>
      rw [Workflow.iterate_finish haction] at h
      cases h
      rw [haction] at hat
      cases hat
    | step index =>
      rw [Workflow.iterate_visit haction] at h
      rcases hvisit : Job.runOn (w.visit settings schedule run index) s with ⟨e | next, s₁⟩
      · rw [hvisit] at h
        cases h
      · rw [hvisit] at h
        rw [Workflow.stops_visit haction hvisit, List.getElem?_cons_succ]
        exact ih h (Nat.lt_of_succ_lt_succ hlt)

theorem leaves_congr {τ : Type} {twin : Step τ} (h : twin.name = step.name) (names : List String)
    (due : Except Violation Advance) : twin.leaves names due = step.leaves names due := by
  unfold Step.leaves Step.settle
  rw [h]

end Runs

/-- If the condition fails `k` times and then holds, the step is visited `k + 1` times in a row. The
first `k` visits record the wait and change nothing else, and the last comes to what the step comes
to when its condition holds at once, in whatever state. All that runs is the condition. An override
in the result that leads back to the step begins a new poll. -/
theorem wait_until_only_polls {program : Program} {registry : Registry σ} {w : Workflow σ}
    (hw : Workflow.compile program registry = .ok w) (settings : SimulatorSettings)
    (schedule : Schedule) {i : Nat} {st : Statement} {seconds : Nat} {name : String}
    {holds : ConditionFunction σ} (hst : program.statements[i]? = some st)
    (hk : st.kind = .waitUntil seconds name) (hfound : registry.conditions.find? name = some holds)
    {run : Run} (hat : run.context.action = .step i) {k : Nat} {state : Nat → σ} {s' : σ}
    (hdeclines : ∀ j < k,
      Job.runOn (holds run.context.result) (state j) = (.ok false, state (j + 1)))
    (hholds : Job.runOn (holds run.context.result) (state k) = (.ok true, s')) :
    ∃ step twin r, w.steps[i]? = some step ∧
      Workflow.compile program registry.tallied = .ok twin ∧
      (∀ bound, k < bound → ∀ j ≤ k, (w.stops settings schedule bound run (state 0))[j]? =
        some ⟨i, (run.polled st.stepName seconds j).context, state j⟩) ∧
      Polls w settings schedule run st.stepName seconds k state r s' ∧
      (∀ log, Polls twin settings schedule run st.stepName seconds k
        (fun j => (state j, List.replicate j ⟨name, .condition⟩ ++ log)) r
        (s', List.replicate (k + 1) ⟨name, .condition⟩ ++ log)) ∧
      (∀ u, Job.runOn (w.invoke step.ready run.context) u = (r, u)) ∧
      r = step.leaves w.names (Plan.due program.statements i run.context) := by
  have hle : i ≤ program.statements.length := Nat.le_of_lt (List.getElem?_eq_some_iff.mp hst).1
  obtain ⟨plan, hplan, _⟩ := compile_names hw
  obtain ⟨twin, htwin⟩ := twin_compiles hplan hw
  obtain ⟨step, hstep, hcompiled⟩ := compile_step_at hw hle
  obtain ⟨step', hstep', hcompiled'⟩ := compile_step_at htwin hle
  have hpolls := polls_of_answers hw hstep hst hk hfound hat hdeclines hholds settings schedule
  refine ⟨step, twin, _, hstep, htwin, ?_, hpolls, ?_, hcompiled.ready_invoke hst hk, rfl⟩
  · intro bound hbound j hj
    exact stops_iterate (hpolls.waits j hj) (by rw [polled_action, hat]) (by omega)
  · intro log
    have hnames : twin.names = w.names := (twin_related hw htwin).names_eq
    have hname : step'.name = step.name := by rw [hcompiled'.name_eq hst, hcompiled.name_eq hst]
    have hfound' := Table.find_named_of_find hfound fun name f x =>
      Job.tally ⟨name, .condition⟩ (f x)
    rw [← hnames, ← leaves_congr hname]
    refine polls_of_answers htwin hstep' hst hk hfound' hat ?_ ?_ settings schedule
    · intro j hj
      exact Job.tally_ran (hdeclines j hj) _ _
    · exact Job.tally_ran hholds _ _

def patientProgram : Program := .ofStatements
  [.at "start" 1 (.call "start") 0, .at "wait 2 until ready" 2 (.waitUntil 2 "ready") 1,
    .at "foreach part" 3 (.loop "part") 2]

def readyAtLast : ConditionFunction Nat := fun _ => do
  let asked ← get
  set (asked + 1)
  return asked == 2

def patientRegistry : Registry Nat where
  calls := ⟨[("start", fun x => pure x)]⟩
  iterations := ⟨[("part", fun _ key => pure key)]⟩
  conditions := ⟨[("ready", readyAtLast)]⟩

def patientRun : Run where
  context := { action := .step 1, result := .int 7, keys := some [.int 1] }
  trail := [⟨"_func_start_0", 0⟩]

theorem patient_run_polls : ∃ w, Workflow.compile patientProgram patientRegistry = .ok w ∧
    Job.runOn (w.iterate {} .inKeyOrder 2 patientRun) 0 = (.ok {
      context := { patientRun.context with wait := 2 }
      trail := [⟨"_wait_2_until_ready_1", 2⟩, ⟨"_wait_2_until_ready_1", 2⟩,
        ⟨"_func_start_0", 0⟩] }, 2) ∧
    Job.runOn (w.iterate {} .inKeyOrder 3 patientRun) 0 = (.ok {
      context := { patientRun.context with action := .step 2 }
      trail := [⟨"_wait_2_until_ready_1", 0⟩, ⟨"_wait_2_until_ready_1", 2⟩,
        ⟨"_wait_2_until_ready_1", 2⟩, ⟨"_func_start_0", 0⟩] }, 3) := by
  have hw : Workflow.compile patientProgram patientRegistry = .ok _ := rfl
  have hat : patientRun.context.action = .step 1 := rfl
  have hdeclines : ∀ j < 2, Job.runOn (readyAtLast patientRun.context.result) (id j) =
      (.ok false, id (j + 1)) := by decide
  have hholds : Job.runOn (readyAtLast patientRun.context.result) (id 2) = (.ok true, 3) := rfl
  obtain ⟨step, _, r, hstep, _, _, hpolls, _, _, hr⟩ :=
    wait_until_only_polls hw {} .inKeyOrder rfl rfl rfl hat hdeclines hholds
  cases hstep
  cases hr
  exact ⟨_, hw, hpolls.waits 2 (Nat.le_refl 2), hpolls.ends⟩

end Lineflow
