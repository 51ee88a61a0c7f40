import Lineflow.Json.Basic
import Lineflow.Plan.Basic

/-! # Contexts and transitions

A driver carries a context from step to step; each step answers with a transition that is merged
into it.
-/
namespace Lineflow

structure Advance where
  action : Action
  wait : Nat := 0
  result : Json
  keys : Option (List Json) := none
  values : Option (List Json) := none
  value : Option Json := none

inductive Transition where
  | advance (a : Advance)
  | retry (seconds : Nat)

structure Context where
  action : Action
  wait : Nat := 0
  result : Json
  keys : Option (List Json) := none
  values : Option (List Json) := none
  key : Option Json := none

namespace Context

def forKey (ctx : Context) (key : Json) : Context := { ctx with key := some key }

/-- Merges a transition. Keys and values that it does not carry stay; a retry keeps the action. -/
def apply (ctx : Context) : Transition → Context
  | .advance a =>
    { ctx with
      action := a.action
      wait := a.wait
      result := a.result
      keys := a.keys.or ctx.keys
      values := a.values.or ctx.values }
  | .retry seconds => { ctx with wait := seconds }

end Context

end Lineflow
