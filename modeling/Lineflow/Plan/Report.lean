import Lineflow.Json.Printer
import Lineflow.Plan.Basic
import Lineflow.Toml.Writer

/-! # Plan reports

What a plan looks like to a reader: steps with the names of their successors, and the functions to
provide. Absent fields are left out.
-/
namespace Lineflow

structure StepReport where
  name : String
  kind : String
  next : String
  reduce : Option String
  retrySeconds : Option Nat
  line : Option Nat
deriving DecidableEq, Repr

structure PlanReport where
  version : String
  steps : List StepReport
  functions : List FunctionUse
deriving DecidableEq, Repr

def StepReport.kindLabel : Option Kind → String
  | some (.call _) => "call"
  | some (.wait _) => "wait"
  | some (.waitUntil _ _) => "wait_until"
  | some (.loop _) => "foreach"
  | none => "completed"

namespace PlanReport

def ofPlan (plan : Plan) : PlanReport where
  version := plan.version
  steps := plan.steps.map fun step => {
    name := step.name
    kind := StepReport.kindLabel step.kind?
    next := plan.actionName step.next
    reduce := step.fanOut.map fun entry => plan.actionName entry.reduce
    retrySeconds := step.retrySeconds
    line := step.statement.map (·.line) }
  functions := plan.requiredFunctions

def field (name : String) (f : α → Json) (value : Option α) : List (String × Json) :=
  (value.map fun v => (name, f v)).toList

def stepFields (step : StepReport) : List (String × Json) :=
  [("name", .str step.name), ("kind", .str step.kind), ("next", .str step.next)] ++
    field "reduce" .str step.reduce ++ field "retry_seconds" .ofNat step.retrySeconds ++
    field "line" .ofNat step.line

def functionFields (use : FunctionUse) : List (String × Json) :=
  [("name", .str use.name), ("role", .str use.role.key)]

def toJson (report : PlanReport) : Json :=
  .obj [
    ("version", .str report.version),
    ("steps", .arr (report.steps.map fun step => .obj (stepFields step))),
    ("functions", .arr (report.functions.map fun use => .obj (functionFields use)))]

def stepItems (step : StepReport) : List (String × Toml.Item) :=
  [("name", .text step.name), ("kind", .text step.kind), ("next", .text step.next)] ++
    (step.reduce.map fun name => ("reduce", Toml.Item.text name)).toList ++
    (step.retrySeconds.map fun n => ("retry_seconds", Toml.Item.integer n)).toList ++
    (step.line.map fun n => ("line", Toml.Item.integer n)).toList

def functionItems (use : FunctionUse) : List (String × Toml.Item) :=
  [("name", .text use.name), ("role", .text use.role.key)]

/-- An empty list of tables is a key of its own. -/
def emptyList (name : String) (isEmpty : Bool) : String :=
  if isEmpty then name ++ " = []\n" else ""

def toToml (report : PlanReport) : Except Toml.OutOfRange String := do
  let head ← Toml.writeEntries [("version", .text report.version)]
  let steps ← Toml.writeTables "steps" (report.steps.map stepItems)
  let functions ← Toml.writeTables "functions" (report.functions.map functionItems)
  return head ++ emptyList "steps" report.steps.isEmpty ++
    emptyList "functions" report.functions.isEmpty ++ steps ++ functions

end PlanReport

inductive ReportFormat where
  | json
  | toml
deriving DecidableEq, Repr

def PlanReport.render (report : PlanReport) : ReportFormat → Except Toml.OutOfRange String
  | .json => .ok report.toJson.pretty
  | .toml => report.toToml

end Lineflow
