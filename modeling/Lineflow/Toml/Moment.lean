import Lineflow.Number.Padded

/-! # Dates and times

A moment is a date, a time of day, or both with an optional distance from universal time. Reading
takes the letters between the parts in either case; writing gives every moment one text.
-/
namespace Lineflow.Toml

structure Date where
  year : Nat
  month : Nat
  day : Nat
deriving DecidableEq, Repr

structure TimeOfDay where
  hour : Nat
  minute : Nat
  second : Nat
  nanosecond : Nat
deriving DecidableEq, Repr

inductive Offset where
  | universal
  | minutes (n : Int)
deriving DecidableEq, Repr

inductive Moment where
  | date (date : Date)
  | time (time : TimeOfDay)
  | both (date : Date) (time : TimeOfDay) (offset : Option Offset)
deriving DecidableEq, Repr

/-! ## Reading -/

def daysIn (year month : Nat) : Nat :=
  if month = 2 then
    if year % 4 = 0 ∧ (year % 100 ≠ 0 ∨ year % 400 = 0) then 29 else 28
  else if month ∈ [4, 6, 9, 11] then 30
  else 31

def decimalValue (digits : List Char) : Nat :=
  digits.foldl (fun n c => n * 10 + (c.toNat - '0'.toNat)) 0

def number? (count low high : Nat) (cs : List Char) : Option (Nat × List Char) :=
  let digits := (cs.take count).takeWhile Char.isDigit
  let n := decimalValue digits
  if digits.length = count ∧ low ≤ n ∧ n ≤ high then some (n, cs.drop count) else none

def after? (marks : List Char) : List Char → Option (List Char)
  | [] => none
  | c :: cs => if c ∈ marks then some cs else none

def date? (cs : List Char) : Option (Date × List Char) := do
  let (year, cs) ← number? 4 0 9999 cs
  let (month, cs) ← number? 2 1 12 (← after? ['-'] cs)
  let (day, cs) ← number? 2 1 (daysIn year month) (← after? ['-'] cs)
  return (⟨year, month, day⟩, cs)

/-- The nanoseconds of a fraction, if there is one. Digits after the ninth do not count. -/
def fraction (cs : List Char) : Nat × List Char :=
  match cs with
  | '.' :: rest =>
    let digits := rest.takeWhile Char.isDigit
    if digits.isEmpty then (0, cs)
    else (decimalValue ((digits ++ List.replicate 9 '0').take 9), rest.drop digits.length)
  | _ => (0, cs)

/-- A time of day; a minute may have a leap second. -/
def timeOfDay? (cs : List Char) : Option (TimeOfDay × List Char) := do
  let (hour, cs) ← number? 2 0 23 cs
  let (minute, cs) ← number? 2 0 59 (← after? [':'] cs)
  let (second, cs) ← number? 2 0 60 (← after? [':'] cs)
  let (nanosecond, cs) := fraction cs
  return (⟨hour, minute, second, nanosecond⟩, cs)

def offset? (cs : List Char) : Option (Offset × List Char) :=
  match cs with
  | [] => none
  | c :: rest =>
    if c = 'Z' ∨ c = 'z' then some (.universal, rest)
    else if c = '+' ∨ c = '-' then do
      let (hours, rest) ← number? 2 0 23 rest
      let (minutes, rest) ← number? 2 0 59 (← after? [':'] rest)
      let distance : Int := (hours * 60 + minutes : Nat)
      return (.minutes (if c = '-' then -distance else distance), rest)
    else none

def moment? (cs : List Char) : Option (Moment × List Char) :=
  match date? cs with
  | none => (timeOfDay? cs).map fun (time, rest) => (.time time, rest)
  | some (date, rest) =>
    match (after? ['T', 't', ' '] rest).bind timeOfDay? with
    | none => some (.date date, rest)
    | some (time, rest) =>
      match offset? rest with
      | none => some (.both date time none, rest)
      | some (offset, rest) => some (.both date time (some offset), rest)

/-! ## Writing -/

def Date.text (date : Date) : String :=
  padded 4 date.year ++ "-" ++ padded 2 date.month ++ "-" ++ padded 2 date.day

def TimeOfDay.text (time : TimeOfDay) : String :=
  let fraction := (padded 9 time.nanosecond).toList.reverse.dropWhile (· == '0')
  padded 2 time.hour ++ ":" ++ padded 2 time.minute ++ ":" ++ padded 2 time.second ++
    if fraction.isEmpty then "" else "." ++ String.ofList fraction.reverse

def Offset.text : Offset → String
  | .universal => "Z"
  | .minutes n =>
    (if n < 0 then "-" else "+") ++ padded 2 (n.natAbs / 60) ++ ":" ++ padded 2 (n.natAbs % 60)

def Moment.text : Moment → String
  | .date d => d.text
  | .time t => t.text
  | .both d t offset => d.text ++ "T" ++ t.text ++ (offset.map Offset.text).getD ""

end Lineflow.Toml
