import Lineflow.Proofs.Correspondence

/-! # Logs of function calls

Every workflow has a twin whose functions write down the key lists that they return and the keys
that they are run on. Nothing else changes: what the twin computes, less its log, is what the
workflow computes.
-/
namespace Lineflow

variable {σ ε α : Type}

inductive Event where
  | fanOut (keys : List Json)
  | iteration (key : Json)

/-- A state with a log, the latest event first. -/
abbrev Logged (σ : Type) := σ × List Event

/-! ## Jobs and their logs -/

namespace Job

def widen (job : Job σ ε α) : Job (Logged σ) ε α :=
  ExceptT.mk fun p => ((Job.runOn job p.1).1, (Job.runOn job p.1).2, p.2)

@[simp] theorem run_on_widen (job : Job σ ε α) (p : Logged σ) :
    Job.runOn job.widen p = ((Job.runOn job p.1).1, (Job.runOn job p.1).2, p.2) := rfl

def note (event : Event) : Job (Logged σ) ε Unit :=
  ExceptT.mk fun p => (.ok (), p.1, event :: p.2)

@[simp] theorem run_on_note (event : Event) (p : Logged σ) :
    Job.runOn (note event : Job (Logged σ) ε Unit) p = (.ok (), p.1, event :: p.2) := rfl

/-- Without its log the first job is the second. -/
def Shadows (logged : Job (Logged σ) ε α) (job : Job σ ε α) : Prop :=
  ∀ p, ((Job.runOn logged p).1, (Job.runOn logged p).2.1) = Job.runOn job p.1

def Forgets (s : σ) (p : Logged σ) : Prop := p.1 = s

theorem shadows_of_related {logged : Job (Logged σ) ε α} {job : Job σ ε α}
    (h : Related Forgets job logged) : Shadows logged job := by
  intro p
  obtain ⟨r, s', p', hjob, hlogged, rfl⟩ := h p.1 p rfl
  rw [hjob, hlogged]

theorem related_widen (job : Job σ ε α) : Related Forgets job job.widen := by
  rintro s p rfl
  exact ⟨_, _, _, rfl, rfl, rfl⟩

end Job

/-! ## Workflows and their twins -/

/-- A fan-out is written down when it returns, an iteration when it is called. -/
def FanOutFunction.logged (f : FanOutFunction σ) : FanOutFunction (Logged σ) := fun result => do
  let output ← (f result).widen
  Job.note (.fanOut output.2)
  return output

theorem run_on_fan_out_logged (f : FanOutFunction σ) (result : Json) (p : Logged σ) :
    Job.runOn (FanOutFunction.logged f result) p =
      match Job.runOn (f result) p.1 with
      | (.ok output, s') => (.ok output, s', .fanOut output.2 :: p.2)
      | (.error e, s') => (.error e, s', p.2) := by
  simp only [FanOutFunction.logged, Job.run_on_bind, Job.run_on_widen, Job.run_on_note]
  rcases Job.runOn (f result) p.1 with ⟨e | output, s'⟩ <;> rfl

def IterationFunction.logged (f : IterationFunction σ) : IterationFunction (Logged σ) :=
  fun result key => do
    Job.note (.iteration key)
    (f result key).widen

theorem run_on_iteration_logged (f : IterationFunction σ) (result key : Json) (p : Logged σ) :
    Job.runOn (IterationFunction.logged f result key) p =
      ((Job.runOn (f result key) p.1).1, (Job.runOn (f result key) p.1).2,
        .iteration key :: p.2) := rfl

def Poll.logged (poll : Poll σ) : Poll (Logged σ) where
  name := poll.name
  seconds := poll.seconds
  holds result := (poll.holds result).widen

def KeySource.logged : KeySource σ → KeySource (Logged σ)
  | .function name f => .function name (FanOutFunction.logged f)
  | .context => .context

def FanOut.logged (fanOut : FanOut σ) : FanOut (Logged σ) where
  reduce := fanOut.reduce
  keys := fanOut.keys.logged

def Work.logged : Work σ → Work (Logged σ)
  | .pass => .pass
  | .call name f => .call name fun result => (f result).widen
  | .reduce name f => .reduce name fun result values => (f result values).widen
  | .iterate name f => .iterate name (IterationFunction.logged f)

def Step.logged (step : Step σ) : Step (Logged σ) where
  index := step.index
  name := step.name
  statement := step.statement
  next := step.next
  wait := step.wait
  poll := step.poll.map Poll.logged
  fanOut := step.fanOut.map FanOut.logged
  work := step.work.logged

def Workflow.logged (w : Workflow σ) : Workflow (Logged σ) where
  version := w.version
  steps := w.steps.map Step.logged

theorem logged_step_at (w : Workflow σ) (i : Nat) :
    w.logged.steps[i]? = (w.steps[i]?).map Step.logged := by
  simp [Workflow.logged]

/-! ## The twin computes the same -/

open Job

theorem related_fan_out (f : FanOutFunction σ) (result : Json) :
    Job.Related Forgets (f result) (FanOutFunction.logged f result) := by
  rintro s p rfl
  rw [run_on_fan_out_logged]
  rcases Job.runOn (f result) p.1 with ⟨e | output, s'⟩
  · exact ⟨_, _, _, rfl, rfl, rfl⟩
  · exact ⟨_, _, _, rfl, rfl, rfl⟩

theorem related_iteration (f : IterationFunction σ) (result key : Json) :
    Job.Related Forgets (f result key) (IterationFunction.logged f result key) := by
  rintro s p rfl
  rw [run_on_iteration_logged]
  exact ⟨_, _, _, rfl, rfl, rfl⟩

theorem Step.logged_related (step : Step σ) : Step.Related Forgets step step.logged := by
  obtain ⟨index, name, statement, next, wait, poll, fanOut, work⟩ := step
  refine .mk ?_ ?_ ?_
  · cases poll with
    | none => exact .none
    | some poll => exact .some (.mk fun x => related_widen (poll.holds x))
  · rcases fanOut with _ | ⟨reduce, ⟨name, f⟩ | _⟩
    · exact .none
    · exact .some (.mk (.function (related_fan_out f)))
    · exact .some (.mk .context)
  · cases work with
    | pass => exact .pass
    | call name f => exact .call fun x => related_widen (f x)
    | reduce name f => exact .reduce fun x values => related_widen (f x values)
    | iterate name f => exact .iterate (related_iteration f)

namespace Workflow

variable {w : Workflow σ} {settings : SimulatorSettings} {schedule : Schedule}

theorem logged_related (w : Workflow σ) : Workflow.Related Forgets w w.logged := by
  intro i
  rw [logged_step_at]
  cases w.steps[i]? with
  | none => exact .none
  | some step => exact .some step.logged_related

theorem shadows_simulate (bound : Nat) (initial : Json) :
    Shadows (w.logged.simulate settings schedule bound initial)
      (w.simulate settings schedule bound initial) :=
  shadows_of_related (w.logged_related.simulate bound initial)

end Workflow

end Lineflow
