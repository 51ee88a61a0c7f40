import Lineflow.Json.Basic

/-! # Overrides

A function redirects control by returning a pair of its value and an object that names the next step
under a marker.
-/
namespace Lineflow

def overrideMarker : String := "_next_step"

/-- How a result is understood. It is refused if the marker is there but names no step. -/
inductive Override where
  | absent (value : Json)
  | jump (value : Json) (target : String)
  | refused (marker : Json)

namespace Override

def goTo (value : Json) (target : String) : Json :=
  .arr [value, .obj [(overrideMarker, .str target)]]

def goToEnd (value : Json) : Json := goTo value "end"

def ofResult : Json → Override
  | .arr [value, .obj members] =>
    match Json.find? overrideMarker members with
    | none => .absent (.arr [value, .obj members])
    | some (.str target) =>
      if target.isEmpty then .refused (.obj members) else .jump value target
    | some _ => .refused (.obj members)
  | value => .absent value

/-- How many payloads are nested in a value, each the value of the one around it. -/
def layers : Json → Nat
  | .arr [value, .obj members] =>
    if (Json.find? overrideMarker members).isSome then layers value + 1 else 0
  | _ => 0

end Override

end Lineflow
