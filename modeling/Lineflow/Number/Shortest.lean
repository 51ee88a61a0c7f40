import Lineflow.Number.Double

/-! # Shortest decimals

The decimal with the fewest digits that reads back as a given number, and of several the one nearest
to it; all in exact arithmetic on natural numbers. A `Layout` says how such a decimal is written.
-/
namespace Lineflow

/-- The decimal `digits * 10 ^ exponent`. -/
structure Decimal where
  digits : Nat
  exponent : Int
deriving DecidableEq

namespace Decimal

def digitCount (n : Nat) : Nat := (Nat.toDigits 10 n).length

def compareTo (a : Nat) (e : Int) (n d : Nat) : Ordering :=
  if e < 0 then compare (a * d) (n * Nat.pow 10 e.natAbs)
  else compare (a * d * Nat.pow 10 e.natAbs) n

def leadingPower (n d : Nat) : Int :=
  let e : Int := (digitCount n : Int) - (digitCount d : Int)
  if compareTo 1 e n d = .gt then e - 1 else e

/-- The reals that round to a number, as fractions over one denominator. -/
structure Interval where
  low : Nat
  value : Nat
  high : Nat
  denominator : Nat
  closed : Bool

def Interval.of (x : Double) : Interval :=
  let m := x.significand
  let up := Nat.pow 2 x.power.toNat
  let narrow := x.fractionField = 0 ∧ 1 < x.exponentField
  { low := (4 * m - if narrow then 1 else 2) * up
    value := 4 * m * up
    high := (4 * m + 2) * up
    denominator := 4 * Nat.pow 2 (-x.power).toNat
    closed := m % 2 = 0 }

def Interval.holds (i : Interval) (a : Nat) (e : Int) : Bool :=
  match compareTo a e i.low i.denominator, compareTo a e i.high i.denominator with
  | .gt, .lt => true
  | .eq, .lt | .gt, .eq => i.closed
  | _, _ => false

inductive Tie where
  | toEven
  | up
deriving DecidableEq, Repr

def Tie.choose (tie : Tie) (below : Nat) : Nat :=
  match tie with
  | .toEven => if below % 2 = 0 then below else below + 1
  | .up => below + 1

/-- The neighbour of the value on the grid of multiples of `10 ^ e` that lies in the interval; of
two the nearer. -/
def Interval.onGrid? (tie : Tie) (i : Interval) (e : Int) : Option Decimal :=
  let below :=
    if e < 0 then i.value * Nat.pow 10 e.natAbs / i.denominator
    else i.value / (i.denominator * Nat.pow 10 e.natAbs)
  match i.holds below e, i.holds (below + 1) e with
  | true, false => some ⟨below, e⟩
  | false, true => some ⟨below + 1, e⟩
  | false, false => none
  | true, true =>
    match compareTo (2 * below + 1) e (2 * i.value) i.denominator with
    | .lt => some ⟨below + 1, e⟩
    | .gt => some ⟨below, e⟩
    | .eq => some ⟨tie.choose below, e⟩

def strip : Nat → Decimal → Decimal
  | 0, d => d
  | n + 1, d =>
    if d.digits ≠ 0 ∧ d.digits % 10 = 0 then strip n ⟨d.digits / 10, d.exponent + 1⟩ else d

/-- The shortest decimal for a finite magnitude other than zero; seventeen digits always suffice. -/
def shortest (tie : Tie) (x : Double) : Decimal :=
  let i := Interval.of x
  let top := leadingPower i.value i.denominator
  match (List.range 17).findSome? fun (n : Nat) => i.onGrid? tie (top - (n : Int)) with
  | some d => strip 20 d
  | none => ⟨0, 0⟩

structure Layout where
  positional : Int → Bool
  wholePoint : Bool
  tie : Tie
  notANumber : String
  infinite : String

def plain (layout : Layout) (digits : List Char) (top : Int) : List Char :=
  if top < 0 then '0' :: '.' :: List.replicate (-top - 1).toNat '0' ++ digits
  else
    let whole := top.toNat + 1
    if digits.length ≤ whole then
      digits ++ List.replicate (whole - digits.length) '0' ++
        if layout.wholePoint then ['.', '0'] else []
    else digits.take whole ++ '.' :: digits.drop whole

def exponential (digits : List Char) (top : Int) : List Char :=
  let fraction := digits.drop 1
  digits.take 1 ++ (if fraction.isEmpty then [] else '.' :: fraction) ++
    'e' :: (if top < 0 then '-' else '+') :: Nat.toDigits 10 top.natAbs

def Layout.write (layout : Layout) (x : Double) : String :=
  if x.isNaN then layout.notANumber
  else
    let sign := if x.isNegative then ['-'] else []
    let magnitude :=
      if x.isInfinite then layout.infinite.toList
      else if x.isZero then plain layout ['0'] 0
      else
        let d := shortest layout.tie x
        let digits := Nat.toDigits 10 d.digits
        let top := d.exponent + (digits.length : Int) - 1
        if layout.positional top then plain layout digits top else exponential digits top
    String.ofList (sign ++ magnitude)

end Decimal

end Lineflow
