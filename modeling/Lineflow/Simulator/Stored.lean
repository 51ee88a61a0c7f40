import Lineflow.Json.Fields
import Lineflow.Simulator.Basic

/-! # Stored simulator settings

The JSON form of the settings of a run; every field may be left out.
-/
namespace Lineflow

def PauseMode.label : PauseMode → String
  | .honor => "honor"
  | .fixed => "fixed"

def PauseMode.ofLabel? : String → Option PauseMode
  | "honor" => some .honor
  | "fixed" => some .fixed
  | _ => none

/-- A mode by its name, or as an object with its name for a member without content. -/
def PauseMode.ofJson? : Json → Option PauseMode
  | .str label => PauseMode.ofLabel? label
  | .obj [(label, .null)] => PauseMode.ofLabel? label
  | _ => none

def optionalField (default : α) (decode : Json → Option α) : Option Json → Option α
  | some v => decode v
  | none => some default

def SimulatorSettings.ofJson? (v : Json) : Option SimulatorSettings :=
  let default : SimulatorSettings := {}
  match v.fields? ["worker_pool_size", "pause", "fixed_pause_ms", "fail_fast"] with
  | some [size, pause, ms, failFast] =>
    return {
      workerPoolSize := ← optionalField default.workerPoolSize Json.unsigned? size
      pause := ← optionalField default.pause PauseMode.ofJson? pause
      fixedPauseMs := ← optionalField default.fixedPauseMs Json.unsigned? ms
      failFast := ← optionalField default.failFast Json.bool? failFast }
  | _ => none

end Lineflow
