import Lineflow.Json.Printer
import Lineflow.Text.Quoted
import Lineflow.Workflow.Context
import Lineflow.Workflow.Override
import Lineflow.Workflow.Registry

/-! # Workflows

A workflow is a plan whose steps are bound to functions. Invoking a step on a context evaluates its
condition, gathers the keys of the `foreach` that it feeds, does its work, and follows an override
in the result.
-/
namespace Lineflow

inductive Violation where
  | noKeysToFanOut
  | noValuesToReduce
  | noIterationKey
  | noBatchKeys
  | badTarget (marker : Json)
  | noWorkerValue
  | workerRetry
  | lostOutputs
  | noEventAction
  | actionMissing
  | noWaitRequested

def Violation.message : Violation → String
  | .noKeysToFanOut => "no iterationKeys in context to fan out over"
  | .noValuesToReduce => "no iterationValues in context to reduce"
  | .noIterationKey => "fan-out step invoked without iterationKey"
  | .noBatchKeys => "fan-out step reached without iterationKeys"
  | .badTarget marker => "override target must be a non-empty step name, got " ++ marker.compact
  | .noWorkerValue => "fan-out worker returned no iterationValue"
  | .workerRetry => "fan-out worker asked for a retry"
  | .lostOutputs => "fan-out batch lost worker outputs"
  | .noEventAction => "event carries no action"
  | .actionMissing => "action is missing"
  | .noWaitRequested => "record without action must request a wait"

/-- The most workers that a pool can have. -/
def largestPool : Nat := 2305843009213693951

/-- Why a run breaks off. A crash of a user function in a fan-out worker is told apart from one in
the driver's own hands. -/
inductive RunError where
  | violation (step : String) (cause : Violation)
  | unresolved (target : String)
  | disagreement (step first other : String)
  | functionFailed (step function : String) (failure : Failure)
  | workerCrashed (step message : String)
  | crashed (message : String)
  | poolTooLarge

def crashText (message : String) : String := "with message " ++ Text.quoted message

def RunError.message : RunError → String
  | .violation step cause => s!"protocol violation in step {step}: {cause.message}"
  | .unresolved target => s!"action '{target}' does not name any step"
  | .disagreement step first other =>
    s!"fan-out workers of step {step} disagree on the next action: '{first}' vs '{other}'"
  | .functionFailed step function _ => s!"function '{function}' failed in step {step}"
  | .workerCrashed step message =>
    s!"fan-out worker of step {step} did not finish: task panicked " ++ crashText message
  | .crashed message => message
  | .poolTooLarge =>
    s!"a semaphore may not have more than MAX_PERMITS permits ({largestPool})"

structure Poll (σ : Type) where
  name : String
  seconds : Nat
  holds : ConditionFunction σ

inductive KeySource (σ : Type) where
  | function (name : String) (f : FanOutFunction σ)
  | context

structure FanOut (σ : Type) where
  reduce : Action
  keys : KeySource σ

inductive Work (σ : Type) where
  | pass
  | call (name : String) (f : CallFunction σ)
  | reduce (name : String) (f : ReduceFunction σ)
  | iterate (name : String) (f : IterationFunction σ)

structure Step (σ : Type) where
  index : Nat
  name : String
  statement : Option Statement
  next : Action
  wait : Nat
  poll : Option (Poll σ)
  fanOut : Option (FanOut σ)
  work : Work σ

variable {σ : Type}

namespace Step

def isLoop (step : Step σ) : Bool := (step.statement.map (·.kind)).any Kind.isLoop

/-! ## Binding -/

def bindPoll (registry : Registry σ) (planned : PlannedStep) :
    Except CompileError (Option (Poll σ)) :=
  match planned.condition, planned.retrySeconds with
  | some use, some seconds => do
    let holds ← registry.demand use planned.name (registry.conditions.find? use.name)
    return some ⟨use.name, seconds, holds⟩
  | _, _ => .ok none

def bindWork (registry : Registry σ) (planned : PlannedStep) :
    Except CompileError (KeySource σ × Work σ) :=
  match planned.function with
  | none => .ok (.context, .pass)
  | some use =>
    match use.role with
    | .fanOut => do
      let f ← registry.demand use planned.name (registry.fanOuts.find? use.name)
      return (.function use.name f, .pass)
    | .call => do
      let f ← registry.demand use planned.name (registry.calls.find? use.name)
      return (.context, .call use.name f)
    | .reduce => do
      let f ← registry.demand use planned.name (registry.reduces.find? use.name)
      return (.context, .reduce use.name f)
    | .iteration => do
      let f ← registry.demand use planned.name (registry.iterations.find? use.name)
      return (.context, .iterate use.name f)
    | .condition => do
      let _ ← registry.demand use planned.name (registry.conditions.find? use.name)
      return (.context, .pass)

def bind (registry : Registry σ) (planned : PlannedStep) : Except CompileError (Step σ) := do
  let poll ← bindPoll registry planned
  let (keys, work) ← bindWork registry planned
  return {
    index := planned.index
    name := planned.name
    statement := planned.statement
    next := planned.next
    wait := planned.waitSeconds
    poll
    fanOut := planned.fanOut.map fun entry => ⟨entry.reduce, keys⟩
    work }

end Step

/-! ## Step names -/

def lastIndex? (name : String) : List String → Option Nat
  | [] => none
  | n :: names =>
    match lastIndex? name names with
    | some index => some (index + 1)
    | none => if n = name then some 0 else none

/-- The action that a name stands for; of several steps with one name the last. -/
def Action.resolve? (names : List String) (name : String) : Option Action :=
  if name = endName then some .finish else (lastIndex? name names).map .step

namespace Step

/-! ## Invocation -/

def report (step : Step σ) (function : String) : Halt → RunError
  | .failed failure => .functionFailed step.name function failure
  | .crashed message => .crashed message

def run (step : Step σ) (function : String) (job : Job σ Halt α) : Job σ RunError α :=
  job.adapt (step.report function)

/-- Follows an override in the result. -/
def settle (names : List String) (step : Step σ) (a : Advance) : Except RunError Transition :=
  match Override.ofResult a.result with
  | .absent _ => .ok (.advance a)
  | .refused marker => .error (.violation step.name (.badTarget marker))
  | .jump value target =>
    match Action.resolve? names target with
    | some action => .ok (.advance { a with action, result := value })
    | none => .error (.unresolved target)

def require (step : Step σ) (cause : Violation) (field : Option α) : Except RunError α :=
  match field with
  | some a => .ok a
  | none => .error (.violation step.name cause)

def gather (step : Step σ) (ctx : Context) : KeySource σ → Job σ RunError (Json × List Json)
  | .function name f => step.run name (f ctx.result)
  | .context => do
    let keys ← step.require .noKeysToFanOut ctx.keys
    return (ctx.result, keys)

def perform (names : List String) (step : Step σ) (ctx : Context) (result : Json)
    (keys : Option (List Json)) : Job σ RunError Transition :=
  match step.work with
  | .pass => liftM (step.settle names { action := step.next, wait := step.wait, result, keys })
  | .call name f => do
    let result ← step.run name (f result)
    step.settle names { action := step.next, wait := step.wait, result, keys }
  | .reduce name f => do
    let values ← step.require .noValuesToReduce ctx.values
    let result ← step.run name (f result values)
    step.settle names { action := step.next, wait := step.wait, result, keys }
  | .iterate name f => do
    let key ← step.require .noIterationKey ctx.key
    let value ← step.run name (f result key)
    step.settle names { action := step.next, wait := step.wait, result, keys, value := some value }

/-- A step whose condition holds. Without keys for its `foreach` it skips to the reduce step. -/
def proceed (names : List String) (step : Step σ) (ctx : Context) : Job σ RunError Transition :=
  match step.fanOut with
  | none => step.perform names ctx ctx.result none
  | some fanOut => do
    let (result, keys) ← step.gather ctx fanOut.keys
    if keys.isEmpty then
      step.settle names { action := fanOut.reduce, result, values := some [] }
    else step.perform names ctx result (some keys)

def invoke (names : List String) (step : Step σ) (ctx : Context) : Job σ RunError Transition :=
  match step.poll with
  | none => step.proceed names ctx
  | some poll => do
    if ← step.run poll.name (poll.holds ctx.result) then step.proceed names ctx
    else return .retry poll.seconds

end Step

structure Workflow (σ : Type) where
  version : String
  steps : List (Step σ)

namespace Workflow

def ofPlan (plan : Plan) (registry : Registry σ) : Except CompileError (Workflow σ) := do
  return { version := plan.version, steps := ← plan.steps.mapM (Step.bind registry) }

def compile (program : Program) (registry : Registry σ) : Except CompileError (Workflow σ) := do
  ofPlan (← Plan.ofProgram program) registry

def names (w : Workflow σ) : List String := w.steps.map (·.name)

def entry (_ : Workflow σ) : Action := .step 0

def resolve? (w : Workflow σ) (name : String) : Option Action := Action.resolve? w.names name

def actionName (w : Workflow σ) (action : Action) : String := action.nameIn w.names

def invoke (w : Workflow σ) (step : Step σ) (ctx : Context) : Job σ RunError Transition :=
  step.invoke w.names ctx

end Workflow

end Lineflow
