import Lineflow.Json.Printer
import Lineflow.Json.Reader
import Lineflow.Workflow.Basic

/-! # Wire records

The form in which transitions cross process boundaries: a JSON object of optional fields. Absent
fields are left out when written; a null counts as absent when read.
-/
namespace Lineflow

structure Record where
  action : Option String := none
  wait : Option Nat := none
  result : Option Json := none
  keys : Option (List Json) := none
  values : Option (List Json) := none
  key : Option Json := none
  value : Option Json := none

namespace Record

def ofTransition (names : List String) : Transition → Record
  | .retry seconds => { wait := some seconds }
  | .advance a =>
    { action := some (a.action.nameIn names)
      wait := some a.wait
      result := some a.result
      keys := a.keys
      values := a.values
      value := a.value }

def toContext (r : Record) (action : Action) : Context where
  action
  wait := r.wait.getD 0
  result := r.result.getD .null
  keys := r.keys
  values := r.values
  key := r.key

/-! ## Writing -/

def field (name : String) (f : α → Json) (value : Option α) : List (String × Json) :=
  (value.map fun v => (name, f v)).toList

def toJson (r : Record) : Json :=
  .obj (field "action" .str r.action ++ field "wait" .ofNat r.wait ++ field "result" id r.result ++
    field "iterationKeys" .arr r.keys ++ field "iterationValues" .arr r.values ++
    field "iterationKey" id r.key ++ field "iterationValue" id r.value)

def encode (r : Record) : String := r.toJson.compact

/-! ## Reading -/

open Json (Fault)

inductive Slot where
  | action
  | wait
  | result
  | keys
  | values
  | key
  | value
deriving DecidableEq, Repr

def Slot.all : List Slot := [.action, .wait, .result, .keys, .values, .key, .value]

def Slot.label : Slot → String
  | .action => "action"
  | .wait => "wait"
  | .result => "result"
  | .keys => "iterationKeys"
  | .values => "iterationValues"
  | .key => "iterationKey"
  | .value => "iterationValue"

def Slot.ofLabel? (label : String) : Option Slot := Slot.all.find? (·.label == label)

/-- Containers that a value in a record may open, inside the record itself. -/
def depthLimit : Nat := Json.depthLimit - 1

def orNull (read : List Char → Except Fault (α × List Char)) (cs : List Char) :
    Except Fault (Option α × List Char) :=
  match Json.skipSpace cs with
  | [] => .error .truncated
  | 'n' :: rest => do return (none, ← Json.word ['u', 'l', 'l'] rest)
  | cs => do
    let (a, rest) ← read cs
    return (some a, rest)

def readText (cs : List Char) : Except Fault (String × List Char) :=
  match cs with
  | '"' :: rest => Json.string rest
  | _ => .error (Json.mismatch cs)

def readSeconds (cs : List Char) : Except Fault (Nat × List Char) := do
  let unsigned : Json × List Char → Except Fault (Nat × List Char)
    | (.int n, rest) => if 0 ≤ n then .ok (n.toNat, rest) else .error .mismatched
    | _ => .error .mismatched
  match cs with
  | '-' :: rest => unsigned (← Json.number true rest)
  | c :: _ => if c.isDigit then unsigned (← Json.number false cs) else throw (Json.mismatch cs)
  | [] => throw .truncated

def readItems (cs : List Char) : Except Fault (List Json × List Char) :=
  match cs with
  | '[' :: rest => Json.arrayItems (Json.value (depthLimit - 1)) rest
  | _ => .error (Json.mismatch cs)

def readSlot (r : Record) (slot : Slot) (cs : List Char) : Except Fault (Record × List Char) :=
  match slot with
  | .action => do
    let (action, rest) ← orNull readText cs
    return ({ r with action }, rest)
  | .wait => do
    let (wait, rest) ← orNull readSeconds cs
    return ({ r with wait }, rest)
  | .result => do
    let (result, rest) ← orNull (Json.value depthLimit) cs
    return ({ r with result }, rest)
  | .keys => do
    let (keys, rest) ← orNull readItems cs
    return ({ r with keys }, rest)
  | .values => do
    let (values, rest) ← orNull readItems cs
    return ({ r with values }, rest)
  | .key => do
    let (key, rest) ← orNull (Json.value depthLimit) cs
    return ({ r with key }, rest)
  | .value => do
    let (value, rest) ← orNull (Json.value depthLimit) cs
    return ({ r with value }, rest)

/-- Reads one member. A field may be named once; unknown members are skipped. -/
def readMember (state : Record × List Slot) (cs : List Char) :
    Except Fault ((Record × List Slot) × List Char) := do
  let (r, seen) := state
  let (label, rest) ← Json.memberKey cs
  match Slot.ofLabel? label with
  | none =>
    let rest ← Json.ignored (← Json.colon rest)
    return ((r, seen), rest)
  | some slot =>
    if slot ∈ seen then throw .mismatched
    else
      let (r, rest) ← readSlot r slot (← Json.colon rest)
      return ((r, slot :: seen), rest)

def readItem (state : Record × List Slot) (cs : List Char) :
    Except Fault ((Record × List Slot) × List Char) :=
  match state with
  | (_, []) => .error .malformed
  | (r, slot :: slots) => do
    let (r, rest) ← readSlot r slot cs
    return ((r, slots), rest)

def read (cs : List Char) : Except Fault (Record × List Char) :=
  match Json.skipSpace cs with
  | [] => .error .truncated
  | '\x7b' :: rest => do
    let ((r, _), rest) ← Json.elements readMember '\x7d' (({} : Record), []) rest
    return (r, rest)
  | '[' :: rest => do
    let ((r, _), rest) ← Json.elements readItem ']' (({} : Record), Slot.all) rest
    return (r, rest)
  | cs => .error (Json.mismatch cs)

def decode (text : String) : Except Fault Record := Json.finish (read text.toList)

end Record

end Lineflow
