import Lineflow.Json.Fields
import Lineflow.Program.Basic

/-! # Stored programs

The JSON form of a program, with its members in a fixed order that the reader does not ask for. A
stored program is taken as it is: names and version are not derived again.
-/
namespace Lineflow

def Kind.toJson : Kind → Json
  | .call function => .obj [("t", .str "function_call"), ("function", .str function)]
  | .wait seconds => .obj [("t", .str "wait"), ("seconds", .ofNat seconds)]
  | .waitUntil seconds condition =>
    .obj [("t", .str "wait_until"), ("seconds", .ofNat seconds), ("condition", .str condition)]
  | .loop function => .obj [("t", .str "loop"), ("function", .str function)]

def Kind.ofTagged? (tag : String) (body : Json) : Option Kind :=
  match tag with
  | "function_call" =>
    match body.fields? ["function"] with
    | some [some function] => return .call (← function.string?)
    | _ => none
  | "wait" =>
    match body.fields? ["seconds"] with
    | some [some seconds] => return .wait (← seconds.unsigned?)
    | _ => none
  | "wait_until" =>
    match body.fields? ["seconds", "condition"] with
    | some [some seconds, some condition] =>
      return .waitUntil (← seconds.unsigned?) (← condition.string?)
    | _ => none
  | "loop" =>
    match body.fields? ["function"] with
    | some [some function] => return .loop (← function.string?)
    | _ => none
  | _ => none

/-- An object names its kind in the member `t`, an array in its first item. -/
def Kind.ofJson? : Json → Option Kind
  | .obj members =>
    match Json.find? "t" members with
    | some (.str tag) => Kind.ofTagged? tag (.obj members)
    | _ => none
  | .arr (.str tag :: fields) => Kind.ofTagged? tag (.arr fields)
  | _ => none

def Statement.toJson (s : Statement) : Json :=
  .obj [("raw_text", .str s.text), ("line", .ofNat s.line), ("kind", s.kind.toJson),
    ("step_name", .str s.stepName)]

def Statement.ofJson? (v : Json) : Option Statement :=
  match v.fields? ["raw_text", "line", "kind", "step_name"] with
  | some [some text, some line, some kind, some stepName] =>
    return {
      text := ← text.string?, line := ← line.unsigned?, kind := ← Kind.ofJson? kind,
      stepName := ← stepName.string? }
  | _ => none

namespace Program

def toJson (p : Program) : Json :=
  .obj [("statements", .arr (p.statements.map Statement.toJson)), ("version", .str p.version)]

def ofJson? (v : Json) : Option Program :=
  match v.fields? ["statements", "version"] with
  | some [some statements, some version] =>
    return {
      statements := ← (← statements.items?).mapM Statement.ofJson?, version := ← version.string? }
  | _ => none

end Program

end Lineflow
