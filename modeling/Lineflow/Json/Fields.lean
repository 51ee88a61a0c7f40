import Lineflow.Json.Basic
import Lineflow.Number.Word

/-! # Decoding JSON values

A record is an object with named members, of which unknown ones are ignored, or an array of its
fields in their order.
-/
namespace Lineflow.Json

/-- The fields of a record; an array may leave out fields at the end and holds no more of them. -/
def fields? (names : List String) : Json → Option (List (Option Json))
  | .obj members => some (names.map fun name => find? name members)
  | .arr items =>
    if items.length ≤ names.length then
      some (items.map some ++ List.replicate (names.length - items.length) none)
    else none
  | _ => none

def string? : Json → Option String
  | .str s => some s
  | _ => none

def bool? : Json → Option Bool
  | .bool b => some b
  | _ => none

def unsigned? : Json → Option Nat
  | .int n => if Word.isUnsigned n then some n.toNat else none
  | _ => none

def items? : Json → Option (List Json)
  | .arr items => some items
  | _ => none

end Lineflow.Json
