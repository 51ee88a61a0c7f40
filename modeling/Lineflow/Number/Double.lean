import Lineflow.Number.Word

/-! # Double-precision numbers

A number is kept as its binary64 bit pattern, so that two numbers can be told apart by `=`; equality
of values is `same`.
-/
namespace Lineflow

structure Double where
  bits : UInt64
deriving DecidableEq, Inhabited

namespace Double

def ofFloat (x : Float) : Double := ⟨x.toBits⟩

def toFloat (x : Double) : Float := Float.ofBits x.bits

def isNegative (x : Double) : Bool := x.bits >>> 63 == 1

def exponentField (x : Double) : Nat := ((x.bits >>> 52) &&& 0x7ff).toNat

def fractionField (x : Double) : Nat := (x.bits &&& 0xfffffffffffff).toNat

def isNaN (x : Double) : Bool := x.exponentField == 0x7ff && x.fractionField != 0

def isInfinite (x : Double) : Bool := x.exponentField == 0x7ff && x.fractionField == 0

def isFinite (x : Double) : Bool := x.exponentField != 0x7ff

def isZero (x : Double) : Bool := x.exponentField == 0 && x.fractionField == 0

def same (x y : Double) : Bool :=
  !x.isNaN && !y.isNaN && (x.bits == y.bits || (x.isZero && y.isZero))

/-- A finite magnitude is `significand * 2 ^ power`. -/
def significand (x : Double) : Nat :=
  if x.exponentField = 0 then x.fractionField else x.fractionField + Nat.pow 2 52

@[inherit_doc significand]
def power (x : Double) : Int :=
  if x.exponentField = 0 then -1074 else (x.exponentField : Int) - 1075

/-- The number nearest to `digits * 10 ^ exponent`, with a sign. Powers of ten beyond those of the
finite numbers are not computed. -/
def nearest (negative : Bool) (digits : Nat) (exponent : Int) : Double :=
  let top : Int := exponent + ((Nat.toDigits 10 digits).length : Int)
  let magnitude :=
    if digits = 0 ∨ top < -400 then 0
    else if 400 < top then 1 / 0
    else if exponent < 0 then Float.ofScientific digits true exponent.natAbs
    else Float.ofScientific digits false exponent.natAbs
  ofFloat (if negative then -magnitude else magnitude)

/-- The nearest natural number below `2 ^ 64`, a half away from zero; zero for a negative number and
for a NaN. -/
def roundUnsigned (x : Double) : Nat :=
  if x.isNaN || x.isNegative then 0
  else if x.isInfinite then Word.bound - 1
  else
    let n :=
      if 0 ≤ x.power then x.significand * Nat.pow 2 x.power.toNat
      else
        let unit := Nat.pow 2 (-x.power).toNat
        (2 * x.significand + unit) / (2 * unit)
    min n (Word.bound - 1)

def tenPower (n : Nat) : Float := Float.ofScientific 1 false n

/-- `digits * 10 ^ exponent` in floating-point steps: the digits are rounded first, then scaled by a
power of ten. There is none when the result exceeds the finite numbers. -/
def scaled? (negative : Bool) (digits : Nat) (exponent : Int) : Option Double :=
  let x := digits.toUInt64.toFloat
  let magnitude :=
    if 0 ≤ exponent then
      if digits = 0 then 0 else if 308 < exponent then 1 / 0 else x * tenPower exponent.toNat
    else if -308 ≤ exponent then x / tenPower exponent.natAbs
    else if -616 ≤ exponent then x / tenPower 308 / tenPower (exponent.natAbs - 308)
    else 0
  let result := ofFloat (if negative then -magnitude else magnitude)
  if result.isFinite then some result else none

end Double

end Lineflow
