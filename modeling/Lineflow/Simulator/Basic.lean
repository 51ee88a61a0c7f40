import Lineflow.Simulator.Batch

/-! # The simulator

Drives a workflow from its entry to the end: one step or one batch at a time, each followed by the
pause that it asks for. A `wait N until` whose condition never holds goes on forever, so a run takes
a bound on its visits.
-/
namespace Lineflow

inductive PauseMode where
  | honor
  | fixed
deriving DecidableEq, Repr

structure SimulatorSettings where
  workerPoolSize : Nat := 4
  pause : PauseMode := .honor
  fixedPauseMs : Nat := 1000
  failFast : Bool := true
deriving DecidableEq, Repr

def SimulatorSettings.pauseFor (settings : SimulatorSettings) (seconds : Nat) : Nat :=
  match settings.pause with
  | .honor => 1000 * seconds
  | .fixed => settings.fixedPauseMs

/-- The order in which workers deliver, by the number of visits before the batch and the number of
workers. -/
structure Schedule where
  order : Nat → Nat → List Nat
  isPerm : ∀ visit workers, (order visit workers).Perm (List.range workers)

def Schedule.inKeyOrder : Schedule where
  order _ workers := List.range workers
  isPerm _ _ := .refl _

structure Visit where
  step : String
  wait : Nat
deriving DecidableEq, Repr

def Visit.pause (settings : SimulatorSettings) (visit : Visit) : Nat :=
  if visit.wait = 0 then 0 else settings.pauseFor visit.wait

structure RunReport where
  result : Json
  visits : List Visit

def longestMeasuredPause : Nat := 946080000000

def totalPause (settings : SimulatorSettings) : List Visit → Nat
  | [] => 0
  | visit :: visits => visit.pause settings + totalPause settings visits

/-- The time slept in milliseconds. A pause of thirty years has no measured end. -/
def RunReport.elapsed? (report : RunReport) (settings : SimulatorSettings) : Option Nat :=
  if report.visits.all fun visit => visit.pause settings < longestMeasuredPause then
    some (totalPause settings report.visits)
  else none

/-- The state of a run. The trail has the visits so far, the latest first. -/
structure Run where
  context : Context
  trail : List Visit := []

def Run.start (entry : Action) (initial : Json) : Run where
  context := { action := entry, result := initial }

namespace Workflow

variable {σ : Type}

def transition (w : Workflow σ) (settings : SimulatorSettings) (order : Nat → List Nat)
    (step : Step σ) (ctx : Context) : Job σ RunError Transition :=
  if step.isLoop then Batch.run w step ctx settings.workerPoolSize settings.failFast order
  else w.invoke step ctx

def visit (w : Workflow σ) (settings : SimulatorSettings) (schedule : Schedule) (run : Run)
    (index : Nat) : Job σ RunError Run :=
  match w.steps[index]? with
  | none => throw (.unresolved s!"#{index}")
  | some step => do
    let t ← w.transition settings (schedule.order run.trail.length) step run.context
    let context := run.context.apply t
    return { context, trail := ⟨step.name, context.wait⟩ :: run.trail }

/-- Drives a run to its end; none if it is not over after `bound` visits. -/
def drive (w : Workflow σ) (settings : SimulatorSettings) (schedule : Schedule) :
    Nat → Run → Job σ RunError (Option RunReport)
  | bound, run =>
    match run.context.action with
    | .finish => return some { result := run.context.result, visits := run.trail.reverse }
    | .step index =>
      match bound with
      | 0 => return none
      | bound + 1 => do
        let run ← w.visit settings schedule run index
        w.drive settings schedule bound run

def simulate (w : Workflow σ) (settings : SimulatorSettings) (schedule : Schedule) (bound : Nat)
    (initial : Json) : Job σ RunError (Option RunReport) :=
  w.drive settings schedule bound (.start w.entry initial)

end Workflow

end Lineflow
