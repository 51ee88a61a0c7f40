import Lineflow.Wire.Record

/-! # The handler

A backend sends one record for each invocation and gets the record of the step's answer. The event
`begin` is answered with the name of the first step.
-/
namespace Lineflow

inductive HandlerError where
  | unreadable (fault : Json.Fault)
  | run (error : RunError)

namespace Workflow

variable {σ : Type}

def stepNamed? (w : Workflow σ) (name : String) : Option (Step σ) :=
  match w.resolve? name with
  | some (.step index) => w.steps[index]?
  | _ => none

def reply (w : Workflow σ) (name : String) (event : Record) : Job σ RunError Record :=
  if name = beginName then return { action := some (w.actionName w.entry) }
  else
    match w.stepNamed? name with
    | none => throw (.unresolved name)
    | some step => do
      let transition ← w.invoke step (event.toContext (.step step.index))
      return .ofTransition w.names transition

/-- An answer without a wait means none; one without an action has to ask for a wait. -/
def checkReply (name : String) (r : Record) : Except RunError Record :=
  match r.action, r.wait with
  | none, none => .error (.violation name .actionMissing)
  | none, some 0 => .error (.violation name .noWaitRequested)
  | _, some _ => .ok r
  | some _, none => .ok { r with wait := some 0 }

def handle (w : Workflow σ) (event : Record) : Job σ RunError Record :=
  match event.action with
  | none => throw (.violation beginName .noEventAction)
  | some name => do
    let r ← w.reply name event
    checkReply name r

def handleText (w : Workflow σ) (event : String) : Job σ HandlerError String :=
  match Record.decode event with
  | .error fault => throw (.unreadable fault)
  | .ok event => do
    let r ← (w.handle event).adapt .run
    return r.encode

end Workflow

end Lineflow
