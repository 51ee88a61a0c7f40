import Lineflow.Workflow.Basic

/-! # Fan-out batches

A `foreach` runs one worker for each key, each on its own snapshot of the context. A worker delivers
its value and the action that it wants to go to, and nothing is merged before every worker has been
heard. The join takes the order in which the workers' outcomes arrive as an argument.
-/
namespace Lineflow

abbrev WorkerOutcome := Except RunError (Json × Action)

namespace Batch

variable {σ : Type}

def deliverable (step : String) : Transition → WorkerOutcome
  | .advance a =>
    match a.value with
    | some value => .ok (value, a.action)
    | none => .error (.violation step .noWorkerValue)
  | .retry _ => .error (.violation step .workerRetry)

/-- A crash in a worker is the worker's own. -/
def contain (step : String) : RunError → RunError
  | .crashed message => .workerCrashed step message
  | error => error

def worker (w : Workflow σ) (step : Step σ) (ctx : Context) (key : Json) :
    StateM σ WorkerOutcome := do
  match ← (w.invoke step (ctx.forKey key)).run with
  | .ok transition => return deliverable step.name transition
  | .error error => return .error (contain step.name error)

def outcomes (w : Workflow σ) (step : Step σ) (ctx : Context) (keys : List Json) :
    StateM σ (List WorkerOutcome) :=
  keys.mapM (worker w step ctx)

structure Joined where
  values : List (Option Json)
  joint : Option Action := none
  failures : List (Nat × RunError) := []

def deliver (names : List String) (step : String) (failFast : Bool) (joined : Joined)
    (delivery : Nat × WorkerOutcome) : Except RunError Joined :=
  match delivery with
  | (index, .error error) =>
    if failFast then .error error
    else .ok { joined with failures := joined.failures ++ [(index, error)] }
  | (index, .ok (value, action)) =>
    let filled := { joined with values := joined.values.set index (some value) }
    match joined.joint with
    | none => .ok { filled with joint := some action }
    | some first =>
      if first = action then .ok filled
      else .error (.disagreement step (first.nameIn names) (action.nameIn names))

def lowest? : List (Nat × RunError) → Option (Nat × RunError)
  | [] => none
  | failure :: failures =>
    match lowest? failures with
    | some other => if other.1 < failure.1 then some other else some failure
    | none => some failure

def conclude (step : Step σ) (ctx : Context) (joined : Joined) : Except RunError Transition :=
  match lowest? joined.failures with
  | some (_, error) => .error error
  | none =>
    let values := joined.values.filterMap id
    if values.length = joined.values.length then
      .ok (.advance {
        action := joined.joint.getD step.next
        result := ctx.result
        values := some values })
    else .error (.violation step.name .lostOutputs)

/-- Joins outcomes that arrive in the order of the positions in `order`. -/
def join (w : Workflow σ) (step : Step σ) (ctx : Context) (failFast : Bool) (order : List Nat)
    (outcomes : List WorkerOutcome) : Except RunError Transition := do
  let deliveries := order.filterMap fun index => outcomes[index]?.map (index, ·)
  let start : Joined := { values := List.replicate outcomes.length none }
  let joined ← deliveries.foldlM (deliver w.names step.name failFast) start
  conclude step ctx joined

/-- Runs a `foreach` over the keys of the context with a pool of workers. The order of delivery may
depend on the number of keys. -/
def run (w : Workflow σ) (step : Step σ) (ctx : Context) (pool : Nat) (failFast : Bool)
    (order : Nat → List Nat) : Job σ RunError Transition :=
  match ctx.keys with
  | none => throw (.violation step.name .noBatchKeys)
  | some [] =>
    return .advance { action := step.next, result := ctx.result, values := some [] }
  | some keys => do
    if largestPool < pool then throw .poolTooLarge
    let outcomes ← liftM (outcomes w step ctx keys)
    join w step ctx failFast (order keys.length) outcomes

end Batch

end Lineflow
