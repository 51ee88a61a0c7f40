import Lineflow.Json.Printer
import Lineflow.Number.Word
import Lineflow.Workflow.Override
import Lineflow.Workflow.Registry

/-! # Scripted functions

A small expression language in JSON for writing user functions. An array whose first item is a name
applies an operator to the items after it; every other value stands for itself. Operands are
evaluated from left to right and only as far as they are needed.
-/
namespace Lineflow.Script

structure Scope where
  result : Json
  key : Json := .null
  values : Json := .null
  calls : Nat

abbrev Meaning := Scope → Except Halt Json

/-- A signed 64-bit number, zero for every other value. -/
def toInt : Json → Int
  | .int n => if Word.isSigned n then n else 0
  | _ => 0

def wrap (n : Int) : Json := .int (Word.wrap n)

def toText : Json → String
  | .str s => s
  | v => v.compact

def isTrue : Json → Bool
  | .bool b => b
  | _ => false

def sum : Json → Json
  | .arr items => items.foldl (fun total v => wrap (toInt total + toInt v)) (.int 0)
  | _ => .int 0

def length : Json → Nat
  | .arr items => items.length
  | .obj members => members.length
  | .str s => s.length
  | _ => 0

def member : Json → Json → Json
  | .obj members, .str key => (Json.find? key members).getD .null
  | .arr items, .int n => if 0 ≤ n then items[n.toNat]?.getD .null else .null
  | _, _ => .null

def setMember (target : Json) (key : String) (value : Json) : Json :=
  match target with
  | .obj members => .obj (Json.insert key value members)
  | _ => .obj [(key, value)]

def operand (meanings : List Meaning) (index : Nat) (scope : Scope) : Except Halt Json :=
  match meanings[index]? with
  | some meaning => meaning scope
  | none => .ok .null

/-- Applies an operator to its operands, of which `raw` are the unevaluated forms. -/
def apply (operator : String) (raw : List Json) (meanings : List Meaning) : Meaning := fun scope =>
  let arg (index : Nat) : Except Halt Json := operand meanings index scope
  match operator with
  | "lit" => .ok (raw.head?.getD .null)
  | "result" => .ok scope.result
  | "key" => .ok scope.key
  | "values" => .ok scope.values
  | "calls" => .ok (.ofNat scope.calls)
  | "add" => do
    let a ← arg 0
    let b ← arg 1
    return wrap (toInt a + toInt b)
  | "mul" => do
    let a ← arg 0
    let b ← arg 1
    return wrap (toInt a * toInt b)
  | "lt" => do
    let a ← arg 0
    let b ← arg 1
    return .bool (toInt a < toInt b)
  | "eq" => do
    let a ← arg 0
    let b ← arg 1
    return .bool (a.same b)
  | "not" => do
    let a ← arg 0
    return .bool (!isTrue a)
  | "if" => do
    let c ← arg 0
    if isTrue c then arg 1 else arg 2
  | "sum" => do
    let a ← arg 0
    return sum a
  | "len" => do
    let a ← arg 0
    return .ofNat (length a)
  | "range" => do
    let n ← arg 0
    return .arr ((List.range (toInt n).toNat).map .ofNat)
  | "arr" => do
    let items ← meanings.mapM (· scope)
    return .arr items
  | "cat" => do
    let items ← meanings.mapM (· scope)
    return .str (String.join (items.map toText))
  | "get" => do
    let a ← arg 0
    let k ← arg 1
    return member a k
  | "set" => do
    let a ← arg 0
    let k ← arg 1
    let v ← arg 2
    return setMember a (toText k) v
  | "goto" => do
    let v ← arg 0
    let t ← arg 1
    return Override.goTo v (toText t)
  | "end" => do
    let v ← arg 0
    return Override.goToEnd v
  | "fail" => do
    let m ← arg 0
    throw (.failed { message := toText m })
  | "fail_with" => do
    let m ← arg 0
    let c ← arg 1
    throw (.failed { message := toText m, context := some (toText c) })
  | "panic" => do
    let m ← arg 0
    throw (.crashed (toText m))
  | "sleep" => do
    let _ ← arg 0
    arg 1
  | _ => .error (.failed { message := "unknown operator " ++ operator })

mutual

def meaning : Json → Meaning
  | .arr (.str operator :: operands) => apply operator operands (meanings operands)
  | .arr (_ :: operands) => apply "" operands (meanings operands)
  | v => fun _ => .ok v

def meanings : List Json → List Meaning
  | [] => []
  | v :: vs => meaning v :: meanings vs

end

abbrev Counts := List (FunctionUse × Nat)

def tick (use : FunctionUse) : StateM Counts Nat := fun counts =>
  let before := (counts.lookup use).getD 0
  (before, (use, before + 1) :: counts.filter (·.1 != use))

structure Function where
  use : FunctionUse
  body : Json
  keys : Json := .null

def Function.run (f : Function) (scope : Nat → Scope) (m : Scope → Except Halt α) :
    Job Counts Halt α := do
  let calls ← liftM (tick f.use)
  m (scope calls)

def keyList : Json → Except Halt (List Json)
  | .arr items => .ok items
  | _ => .error (.failed { message := "keys must be an array" })

def Function.register (registry : Registry Counts) (f : Function) : Registry Counts :=
  let name := f.use.name
  match f.use.role with
  | .call =>
    { registry with
      calls := registry.calls.insert name fun result =>
        f.run (fun calls => { result, calls }) (meaning f.body) }
  | .fanOut =>
    { registry with
      fanOuts := registry.fanOuts.insert name fun result =>
        f.run (fun calls => { result, calls }) fun scope => do
          let carried ← meaning f.body scope
          let keys ← keyList (← meaning f.keys scope)
          return (carried, keys) }
  | .reduce =>
    { registry with
      reduces := registry.reduces.insert name fun result values =>
        f.run (fun calls => { result, values := .arr values, calls }) (meaning f.body) }
  | .iteration =>
    { registry with
      iterations := registry.iterations.insert name fun result key =>
        f.run (fun calls => { result, key, calls }) (meaning f.body) }
  | .condition =>
    { registry with
      conditions := registry.conditions.insert name fun result =>
        f.run (fun calls => { result, calls }) fun scope => do
          return isTrue (← meaning f.body scope) }

def registry (functions : List Function) : Registry Counts :=
  functions.foldl Function.register {}

end Lineflow.Script
