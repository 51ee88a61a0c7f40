import Lineflow.Json.Basic
import Lineflow.Text.Lower
import Lineflow.Toml.Reader

/-! # Layers of settings

Settings are a tree of tables that remembers where each value comes from. A layer is laid over
another key by key: tables are merged, every other value replaces what was there. Keys are compared
in lower case.
-/
namespace Lineflow

inductive Scalar where
  | nil
  | bool (b : Bool)
  | int (n : Int)
  | float (x : Double)
  | text (s : String)
deriving DecidableEq

/-- A value with the place that it comes from; built-in values come from nowhere. -/
inductive Setting where
  | scalar (origin : Option String) (value : Scalar)
  | list (origin : Option String) (items : List Setting)
  | table (origin : Option String) (members : List (String × Setting))

namespace Setting

def absent : Setting := .scalar none .nil

def emptyTable : Setting := .table none []

def child? (key : String) : Setting → Option Setting
  | .table _ members => members.lookup key
  | _ => none

def putMember (key : String) (s : Setting) : List (String × Setting) → List (String × Setting)
  | [] => [(key, s)]
  | (k, old) :: rest => if k = key then (key, s) :: rest else (k, old) :: putMember key s rest

def put (target : Setting) (key : String) (s : Setting) : Setting :=
  match target with
  | .table origin members => .table origin (putMember key s members)
  | _ => .table none [(key, s)]

mutual

def laidOver (incoming : Setting) (existing : Option Setting) : Setting :=
  match incoming with
  | .table _ members => overMembers members (existing.getD emptyTable)
  | s => s

def overMembers (incoming : List (String × Setting)) (target : Setting) : Setting :=
  match incoming with
  | [] => target
  | (key, s) :: rest =>
    let name := Text.lower key
    overMembers rest (target.put name (laidOver s (target.child? name)))

end

/-! ## Paths -/

inductive Segment where
  | member (key : String)
  | index (position : Int)
deriving DecidableEq, Repr

def isKeyChar (c : Char) : Bool := c.isAlphanum || c == '_' || c == '-' || c == ' '

def dropSpaces (cs : List Char) : List Char := cs.dropWhile fun c => c == ' ' || c == '\t'

/-- The steps after the first name of a path: `.name` or `[position]`. Positions have 64 bits. -/
def segments? : Nat → List Char → Option (List Segment)
  | _, [] => some []
  | 0, _ => none
  | n + 1, '.' :: rest => do
    let key := rest.takeWhile isKeyChar
    if key.isEmpty then none
    else return .member (String.ofList key) :: (← segments? n (rest.drop key.length))
  | n + 1, '[' :: rest => do
    let (sign, rest) : Int × List Char := match dropSpaces rest with
      | '-' :: rest => (-1, rest)
      | rest => (1, rest)
    let digits := rest.takeWhile Char.isDigit
    let position : Int := sign * (digits.foldl (fun n c => n * 10 + (c.toNat - '0'.toNat)) 0 : Nat)
    match dropSpaces (rest.drop digits.length) with
    | ']' :: rest =>
      if digits.isEmpty || !Word.isSigned position then none
      else return .index position :: (← segments? n rest)
    | _ => none
  | _, _ => none

/-- The path that a key spells. A key that spells none stands for itself. -/
def path (key : String) : List Segment :=
  let cs := key.toList
  let first := cs.takeWhile isKeyChar
  match segments? cs.length (cs.drop first.length) with
  | some segments =>
    if first.isEmpty then [.member key] else .member (String.ofList first) :: segments
  | none => [.member key]

inductive PathFault where
  | beforeStart
  | listTooLong
deriving DecidableEq, Repr

def PathFault.message : PathFault → String
  | .beforeStart => "attempt to subtract with overflow"
  | .listTooLong => "capacity overflow"

def longestList : Nat := 96076792050570581

def items : Setting → List Setting
  | .list _ items => items
  | _ => []

def originOfList : Setting → Option String
  | .list origin _ => origin
  | _ => none

def position (length : Nat) (index : Int) : Except PathFault Nat :=
  if index < 0 then
    if length < index.natAbs then .error .beforeStart else .ok (length - index.natAbs)
  else if longestList ≤ index.toNat then .error .listTooLong
  else .ok index.toNat

/-- Lays a setting over the place that a path leads to, and makes the containers on the way. A list
grows up to the position that is asked for. -/
def place (s : Setting) : List Segment → Setting → Except PathFault Setting
  | [], _ => .ok s
  | [.member key], target => .ok (overMembers [(key, s)] target)
  | .member key :: rest, target => do
    let name := Text.lower key
    return target.put name (← place s rest ((target.child? name).getD absent))
  | .index index :: rest, target => do
    let position ← position target.items.length index
    let items := target.items ++ List.replicate (position + 1 - target.items.length) absent
    let item ← place s rest (items.getD position absent)
    return .list target.originOfList (items.set position item)

def layOver (layer : List (String × Setting)) (target : Setting) : Except PathFault Setting :=
  layer.foldlM (fun target (key, s) => place s (path key) target) target

/-! ## Values of other formats -/

mutual

def ofJson (origin : String) : Json → Setting
  | .null => .scalar origin .nil
  | .bool b => .scalar origin (.bool b)
  | .int n =>
    .scalar origin <|
      if Word.isSigned n then .int n
      else .float (.ofFloat n.toNat.toUInt64.toFloat)
  | .float x => .scalar origin (.float x)
  | .str s => .scalar origin (.text s)
  | .arr items => .list origin (ofJsonItems origin items)
  | .obj members => .table origin (ofJsonMembers origin members)

def ofJsonItems (origin : String) : List Json → List Setting
  | [] => []
  | v :: vs => ofJson origin v :: ofJsonItems origin vs

def ofJsonMembers (origin : String) : List (String × Json) → List (String × Setting)
  | [] => []
  | (key, v) :: rest => (key, ofJson origin v) :: ofJsonMembers origin rest

end

mutual

def ofToml (origin : String) : Toml.Value → Setting
  | .text s => .scalar origin (.text s)
  | .integer n => .scalar origin (.int n)
  | .float x => .scalar origin (.float x)
  | .boolean b => .scalar origin (.bool b)
  | .moment m => .scalar origin (.text m.text)
  | .array items => .list origin (ofTomlItems origin items)
  | .table members => .table origin (ofTomlMembers origin members)

def ofTomlItems (origin : String) : List Toml.Value → List Setting
  | [] => []
  | v :: vs => ofToml origin v :: ofTomlItems origin vs

def ofTomlMembers (origin : String) : List (String × Toml.Value) → List (String × Setting)
  | [] => []
  | (key, v) :: rest => (key, ofToml origin v) :: ofTomlMembers origin rest

end

end Setting

end Lineflow
