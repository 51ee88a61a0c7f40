import Lineflow.Program.Basic

/-! # Plans

A plan fixes, from the kinds of the statements and their neighbours alone, where each step goes
next, whether it feeds a `foreach`, and which functions it needs in which role. The last step of a
plan stands for completion.
-/
namespace Lineflow

/-- The part a function plays, which its position decides. -/
inductive Role where
  | call
  | fanOut
  | reduce
  | iteration
  | condition
deriving DecidableEq, Repr

namespace Role

def label : Role → String
  | .call => "call"
  | .fanOut => "fan-out"
  | .reduce => "reduce"
  | .iteration => "iteration"
  | .condition => "condition"

def key : Role → String
  | .fanOut => "fan_out"
  | role => role.label

def all : List Role := [.call, .condition, .fanOut, .iteration, .reduce]

def ofKey? (key : String) : Option Role := all.find? (·.key == key)

end Role

structure FunctionUse where
  name : String
  role : Role
deriving DecidableEq, Repr

inductive Action where
  | step (index : Nat)
  | finish
deriving DecidableEq, Repr

def endName : String := "end"

def beginName : String := "begin"

def completedName : String := "_completed"

/-- Set on a step right before a `foreach`. Without keys control goes to the `reduce` action. -/
structure FanOutEntry where
  loopStep : Nat
  reduce : Action
deriving DecidableEq, Repr

structure PlannedStep where
  index : Nat
  name : String
  statement : Option Statement
  next : Action
  fanOut : Option FanOutEntry := none
  function : Option FunctionUse := none
  condition : Option FunctionUse := none
deriving DecidableEq, Repr

namespace PlannedStep

def kind? (s : PlannedStep) : Option Kind := s.statement.map (·.kind)

def isLoop (s : PlannedStep) : Bool := s.kind?.any Kind.isLoop

def waitSeconds (s : PlannedStep) : Nat :=
  match s.kind? with
  | some (.wait seconds) => seconds
  | _ => 0

def retrySeconds (s : PlannedStep) : Option Nat :=
  match s.kind? with
  | some (.waitUntil seconds _) => some seconds
  | _ => none

def producesKeys (s : PlannedStep) : Bool :=
  s.function.any (·.role == .fanOut)

def uses (s : PlannedStep) : List FunctionUse := s.function.toList ++ s.condition.toList

end PlannedStep

structure Plan where
  version : String
  steps : List PlannedStep
deriving DecidableEq, Repr

/-- Why a program cannot be bound. A mismatch gives the least of the roles that are registered under
the name, by label. -/
inductive CompileError where
  | firstNotCall (text : String)
  | unknownFunction (use : FunctionUse) (step : String)
  | signatureMismatch (use : FunctionUse) (step : String) (registered : Role)
deriving DecidableEq, Repr

def CompileError.message : CompileError → String
  | .firstNotCall text => s!"first line [{text}] must be a normal function"
  | .unknownFunction use step =>
    s!"function '{use.name}' used by step {step} as {use.role.label} is not registered"
  | .signatureMismatch use step registered =>
    s!"function '{use.name}' used by step {step} as {use.role.label} is registered as " ++
      registered.label

def Action.nameIn (names : List String) : Action → String
  | .finish => endName
  | .step index => names[index]?.getD endName

namespace Plan

/-- The keys of a `foreach` after position `index` go past it, or to the end if it is last. -/
def entryBefore (statements : List Statement) (index : Nat) : Option FanOutEntry :=
  match statements[index + 1]? with
  | some successor =>
    if successor.kind.isLoop then
      some {
        loopStep := index + 1
        reduce := if index + 2 < statements.length then .step (index + 2) else .finish }
    else none
  | none => none

def followsLoop (statements : List Statement) (index : Nat) : Bool :=
  0 < index && (statements[index - 1]?).any (·.kind.isLoop)

/-- The role of a call: fan-out before a `foreach`, else reduce after one. -/
def callRole (statements : List Statement) (index : Nat) : Role :=
  if (entryBefore statements index).isSome then .fanOut
  else if followsLoop statements index then .reduce
  else .call

def functionUse (statements : List Statement) (index : Nat) : Kind → Option FunctionUse
  | .call function => some ⟨function, callRole statements index⟩
  | .loop function => some ⟨function, .iteration⟩
  | .wait _ | .waitUntil _ _ => none

def conditionUse : Kind → Option FunctionUse
  | .waitUntil _ condition => some ⟨condition, .condition⟩
  | _ => none

def stepAt (statements : List Statement) (index : Nat) (statement : Statement) : PlannedStep where
  index
  name := statement.stepName
  statement := some statement
  next := .step (index + 1)
  fanOut := entryBefore statements index
  function := functionUse statements index statement.kind
  condition := conditionUse statement.kind

def completion (index : Nat) : PlannedStep where
  index
  name := completedName
  statement := none
  next := .finish

def ofProgram (program : Program) : Except CompileError Plan :=
  let steps := program.statements.mapIdx (stepAt program.statements)
  let plan : Plan := ⟨program.version, steps ++ [completion program.statements.length]⟩
  match program.statements with
  | [] => .ok plan
  | first :: _ => if first.kind.isCall then .ok plan else .error (.firstNotCall first.text)

def names (plan : Plan) : List String := plan.steps.map (·.name)

def entry (_ : Plan) : Action := .step 0

def insertNew (seen : List FunctionUse) (use : FunctionUse) : List FunctionUse :=
  if use ∈ seen then seen else seen ++ [use]

/-- Every function that a step refers to once, in the order of first use. -/
def requiredFunctions (plan : Plan) : List FunctionUse :=
  (plan.steps.flatMap PlannedStep.uses).foldl insertNew []

def actionName (plan : Plan) (action : Action) : String := action.nameIn plan.names

end Plan

end Lineflow
