/-! # Statements

One statement stands on one line of a workflow. Its step name is its address: it tells the kind, the
names on the line and the position among the statements.
-/
namespace Lineflow

inductive Kind where
  | call (function : String)
  | wait (seconds : Nat)
  | waitUntil (seconds : Nat) (condition : String)
  | loop (function : String)
deriving DecidableEq, Repr

namespace Kind

def isCall : Kind → Bool
  | .call _ => true
  | _ => false

def isLoop : Kind → Bool
  | .loop _ => true
  | _ => false

/-- The address of the statement of this kind at a position. -/
def stepName (index : Nat) : Kind → String
  | .call function => s!"_func_{function}_{index}"
  | .wait seconds => s!"_wait_{seconds}_{index}"
  | .waitUntil seconds condition => s!"_wait_{seconds}_until_{condition}_{index}"
  | .loop function => s!"_foreach_{function}_{index}"

end Kind

structure Statement where
  text : String
  line : Nat
  kind : Kind
  stepName : String
deriving DecidableEq, Repr

def Statement.at (text : String) (line : Nat) (kind : Kind) (index : Nat) : Statement :=
  { text, line, kind, stepName := kind.stepName index }

end Lineflow
