import Lineflow.Number.Word
import Lineflow.Statement.Basic
import Lineflow.Text.Blank

/-! # The line grammar

The first term of a line selects its kind: `foreach F`, `wait N` and `wait N until F` are keywords
with their arguments, and any other line names a function by its whole text.
-/
namespace Lineflow

inductive LineFault where
  | loopArguments
  | waitArguments
  | notPositive (term : String)
  | outOfRange (term : String)
deriving DecidableEq, Repr

def LineFault.message : LineFault → String
  | .loopArguments => "foreach takes exactly one function name"
  | .waitArguments => "expected `wait <seconds>` or `wait <seconds> until <function>`"
  | .notPositive term => s!"'{term}' is not a positive integer"
  | .outOfRange term => s!"'{term}' is out of range"

def isPositiveNumeral : List Char → Bool
  | [] => false
  | c :: cs => c.isDigit && c != '0' && cs.all Char.isDigit

def numeralValue (digits : List Char) : Nat :=
  digits.foldl (fun n c => n * 10 + (c.toNat - '0'.toNat)) 0

def readSeconds (term : List Char) : Except LineFault Nat :=
  if isPositiveNumeral term then
    if numeralValue term < Word.bound then .ok (numeralValue term)
    else .error (.outOfRange (String.ofList term))
  else .error (.notPositive (String.ofList term))

def Kind.ofTerms (text : List Char) (terms : List (List Char)) : Except LineFault Kind :=
  match terms with
  | [] => .ok (.call (String.ofList text))
  | first :: arguments =>
    if first = "foreach".toList then
      match arguments with
      | [function] => .ok (.loop (String.ofList function))
      | _ => .error .loopArguments
    else if first = "wait".toList then
      match arguments with
      | [seconds] => do return .wait (← readSeconds seconds)
      | [seconds, between, condition] =>
        if between = "until".toList then do
          return .waitUntil (← readSeconds seconds) (String.ofList condition)
        else .error .waitArguments
      | _ => .error .waitArguments
    else .ok (.call (String.ofList text))

def Kind.ofText (text : List Char) : Except LineFault Kind :=
  Kind.ofTerms text (Text.terms text)

end Lineflow
