import Lineflow.Json.Basic
import Lineflow.Plan.Basic

/-! # Registries of user functions

User functions share a state, may fail with a message and may crash. A registry has one table for
each role, so that a name can be registered once in every role.
-/
namespace Lineflow

structure Failure where
  message : String
  context : Option String := none
deriving DecidableEq, Repr

def Failure.text (failure : Failure) : String :=
  match failure.context with
  | some context => s!"{context}: {failure.message}"
  | none => failure.message

inductive Halt where
  | failed (failure : Failure)
  | crashed (message : String)
deriving DecidableEq, Repr

abbrev Job (σ ε α : Type) := ExceptT ε (StateM σ) α

abbrev CallFunction (σ : Type) := Json → Job σ Halt Json
abbrev FanOutFunction (σ : Type) := Json → Job σ Halt (Json × List Json)
abbrev ReduceFunction (σ : Type) := Json → List Json → Job σ Halt Json
abbrev IterationFunction (σ : Type) := Json → Json → Job σ Halt Json
abbrev ConditionFunction (σ : Type) := Json → Job σ Halt Bool

/-- Named entries; a name occurs once. -/
structure Table (α : Type) where
  entries : List (String × α) := []

namespace Table

def find? (table : Table α) (name : String) : Option α := table.entries.lookup name

def insert (table : Table α) (name : String) (a : α) : Table α :=
  ⟨table.entries.filter (·.1 != name) ++ [(name, a)]⟩

def size (table : Table α) : Nat := table.entries.length

end Table

structure Registry (σ : Type) where
  calls : Table (CallFunction σ) := {}
  fanOuts : Table (FanOutFunction σ) := {}
  reduces : Table (ReduceFunction σ) := {}
  iterations : Table (IterationFunction σ) := {}
  conditions : Table (ConditionFunction σ) := {}

namespace Registry

variable {σ : Type}

def provides (registry : Registry σ) (use : FunctionUse) : Bool :=
  match use.role with
  | .call => (registry.calls.find? use.name).isSome
  | .fanOut => (registry.fanOuts.find? use.name).isSome
  | .reduce => (registry.reduces.find? use.name).isSome
  | .iteration => (registry.iterations.find? use.name).isSome
  | .condition => (registry.conditions.find? use.name).isSome

def roles (registry : Registry σ) (name : String) : List Role :=
  Role.all.filter fun role => registry.provides ⟨name, role⟩

def size (registry : Registry σ) : Nat :=
  registry.calls.size + registry.fanOuts.size + registry.reduces.size + registry.iterations.size +
    registry.conditions.size

/-- Registers a placeholder: calls and reduces keep the result, a fan-out has no keys, an iteration
gives its key back and a condition holds. -/
def insertStub (registry : Registry σ) (use : FunctionUse) : Registry σ :=
  match use.role with
  | .call => { registry with calls := registry.calls.insert use.name fun result => pure result }
  | .fanOut =>
    { registry with fanOuts := registry.fanOuts.insert use.name fun result => pure (result, []) }
  | .reduce =>
    { registry with reduces := registry.reduces.insert use.name fun result _ => pure result }
  | .iteration =>
    { registry with iterations := registry.iterations.insert use.name fun _ key => pure key }
  | .condition =>
    { registry with conditions := registry.conditions.insert use.name fun _ => pure true }

def stubs (plan : Plan) : Registry σ := plan.requiredFunctions.foldl insertStub {}

def missing (registry : Registry σ) (use : FunctionUse) (step : String) : CompileError :=
  match registry.roles use.name with
  | registered :: _ => .signatureMismatch use step registered
  | [] => .unknownFunction use step

def demand (registry : Registry σ) (use : FunctionUse) (step : String) (found : Option α) :
    Except CompileError α :=
  match found with
  | some f => .ok f
  | none => .error (registry.missing use step)

end Registry

end Lineflow
