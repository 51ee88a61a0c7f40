import Lineflow.Proofs.Compilation
import Lineflow.Proofs.Invocation
import Lineflow.Simulator.Basic

/-! # Runs of the driver

A run is a sequence of visits. Each visit merges the transition of one step or of one batch into the
context; the reachable states are those that a run from the entry passes through.
-/
namespace Lineflow

variable {σ : Type}

def Run.after (run : Run) (step : String) (t : Transition) : Run where
  context := run.context.apply t
  trail := ⟨step, (run.context.apply t).wait⟩ :: run.trail

namespace Workflow

variable {w : Workflow σ} {settings : SimulatorSettings} {schedule : Schedule} {run : Run}
  {index : Nat} {step : Step σ}

theorem visit_run_on (h : w.steps[index]? = some step) (s : σ) :
    Job.runOn (w.visit settings schedule run index) s =
      match Job.runOn (w.transition settings (schedule.order run.trail.length) step run.context) s
        with
      | (.ok t, s') => (.ok (run.after step.name t), s')
      | (.error e, s') => (.error e, s') := by
  simp only [visit, h, Job.run_on_bind, Job.run_on_pure]
  rcases Job.runOn (w.transition settings (schedule.order run.trail.length) step run.context) s
    with ⟨⟨⟩, s'⟩ <;> rfl

theorem action_name_step (h : w.steps[index]? = some step) :
    w.actionName (.step index) = step.name := by
  simp [actionName, Action.nameIn, names, h]

theorem transition_step (h : step.isLoop = false) (order : Nat → List Nat) (ctx : Context) :
    w.transition settings order step ctx = w.invoke step ctx := by
  simp [transition, h]

theorem transition_batch (h : step.isLoop = true) (order : Nat → List Nat) (ctx : Context) :
    w.transition settings order step ctx =
      Batch.run w step ctx settings.workerPoolSize settings.failFast order := by
  simp [transition, h]

/-! ## Driving -/

theorem drive_finish (h : run.context.action = .finish) (bound : Nat) (s : σ) :
    Job.runOn (w.drive settings schedule bound run) s =
      (.ok (some { result := run.context.result, visits := run.trail.reverse }), s) := by
  cases bound <;> simp [drive, h]

theorem drive_exhausted (h : run.context.action = .step index) (s : σ) :
    Job.runOn (w.drive settings schedule 0 run) s = (.ok none, s) := by
  simp [drive, h]

theorem drive_visit (h : run.context.action = .step index) (bound : Nat) (s : σ) :
    Job.runOn (w.drive settings schedule (bound + 1) run) s =
      match Job.runOn (w.visit settings schedule run index) s with
      | (.ok run', s') => Job.runOn (w.drive settings schedule bound run') s'
      | (.error e, s') => (.error e, s') := by
  rw [drive]
  simp only [h, Job.run_on_bind]
  rcases Job.runOn (w.visit settings schedule run index) s with ⟨⟨⟩, s'⟩ <;> rfl

/-- The states that a run from the entry passes through, with the states of the user functions. -/
inductive Reachable (w : Workflow σ) (settings : SimulatorSettings) (schedule : Schedule)
    (initial : Json) (start : σ) : Run → σ → Prop where
  | entry : Reachable w settings schedule initial start (.start w.entry initial) start
  | visit {run index s run' s'} : Reachable w settings schedule initial start run s →
      run.context.action = .step index →
      Job.runOn (w.visit settings schedule run index) s = (.ok run', s') →
      Reachable w settings schedule initial start run' s'

end Workflow

end Lineflow
