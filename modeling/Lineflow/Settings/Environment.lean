import Lineflow.Settings.Layer

/-! # Settings from the environment

Variables whose names start with a fixed prefix, in any case, are settings: two underscores part the
names of nested tables. A value is read as a truth value or a number if it looks like one.
-/
namespace Lineflow

abbrev Environment := List (String × String)

namespace Environment

def namePrefix : String := "fnfig_"

def filePathName : String := "FNFIG_CONFIG_PATH"

def origin : String := "the environment"

def usualNames : List String :=
  [filePathName, "FNFIG_LOG_LEVEL", "FNFIG_LOG_JSON", "FNFIG_SIMULATOR",
    "FNFIG_SIMULATOR__WORKER_POOL_SIZE", "FNFIG_SIMULATOR__PAUSE",
    "FNFIG_SIMULATOR__FIXED_PAUSE_MS", "FNFIG_SIMULATOR__FAIL_FAST"]

def splitSign (cs : List Char) : Bool × List Char :=
  match cs with
  | '-' :: rest => (true, rest)
  | '+' :: rest => (false, rest)
  | _ => (false, cs)

def digitsValue (digits : List Char) : Nat :=
  digits.foldl (fun n c => n * 10 + (c.toNat - '0'.toNat)) 0

def integer? (cs : List Char) : Option Int :=
  let (negative, digits) := splitSign cs
  if digits.isEmpty || !digits.all Char.isDigit then none
  else
    let n : Int := if negative then -(digitsValue digits) else digitsValue digits
    if Word.isSigned n then some n else none

def float? (cs : List Char) : Option Double :=
  let (negative, rest) := splitSign cs
  let signed (x : Float) : Option Double := some (.ofFloat (if negative then -x else x))
  let name := rest.map Char.toLower
  if name = "inf".toList ∨ name = "infinity".toList then signed (1 / 0)
  else if name = "nan".toList then signed (0 / 0)
  else
    let whole := rest.takeWhile Char.isDigit
    let rest := rest.drop whole.length
    let (fraction, rest) : List Char × List Char := match rest with
      | '.' :: rest => (rest.takeWhile Char.isDigit, rest.dropWhile Char.isDigit)
      | _ => ([], rest)
    if whole.isEmpty && fraction.isEmpty then none
    else
      let scaled (exponent : Int) : Double :=
        .nearest negative (digitsValue (whole ++ fraction)) (exponent - (fraction.length : Int))
      match rest with
      | [] => some (scaled 0)
      | mark :: rest =>
        let (down, digits) := splitSign rest
        if (mark == 'e' || mark == 'E') && !digits.isEmpty && digits.all Char.isDigit then
          let n : Int := digitsValue digits
          some (scaled (if down then -n else n))
        else none

def scalar (value : String) : Scalar :=
  let name := Text.lower value
  if name = "true" then .bool true
  else if name = "false" then .bool false
  else
    match integer? value.toList with
    | some n => .int n
    | none =>
      match float? value.toList with
      | some x => .float x
      | none => .text value

def layer (env : Environment) : List (String × Setting) :=
  env.filterMap fun (name, value) =>
    let name := Text.lower name
    if name.startsWith namePrefix then
      let key := name.toList.drop namePrefix.length
      some ((String.ofList key).replace "__" ".", .scalar origin (scalar value))
    else none

end Environment

end Lineflow
