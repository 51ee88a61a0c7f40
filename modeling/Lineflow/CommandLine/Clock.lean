import Lineflow.Number.Padded

/-! # Dates and times

The text of a moment in universal time, and identifiers of runs.
-/
namespace Lineflow.CommandLine

/-- Year, month and day of a day counted from the first of January 1970. The calendar is counted
from the first of March of a year divisible by four hundred, so that a leap day comes last. -/
def civilDate (day : Nat) : Nat × Nat × Nat :=
  let z := day + 719468
  let era := z / 146097
  let dayOfEra := z % 146097
  let yearOfEra := (dayOfEra - dayOfEra / 1460 + dayOfEra / 36524 - dayOfEra / 146096) / 365
  let dayOfYear := dayOfEra - (365 * yearOfEra + yearOfEra / 4 - yearOfEra / 100)
  let shifted := (5 * dayOfYear + 2) / 153
  let dayOfMonth := dayOfYear - (153 * shifted + 2) / 5 + 1
  let month := if shifted < 10 then shifted + 3 else shifted - 9
  (400 * era + yearOfEra + (if month ≤ 2 then 1 else 0), month, dayOfMonth)

/-- A fraction of a second in as few groups of three digits as hold it. -/
def fractionText (nanoseconds : Nat) : String :=
  if nanoseconds = 0 then ""
  else if nanoseconds % 1000000 = 0 then "." ++ padded 3 (nanoseconds / 1000000)
  else if nanoseconds % 1000 = 0 then "." ++ padded 6 (nanoseconds / 1000)
  else "." ++ padded 9 nanoseconds

def momentText (nanoseconds : Nat) : String :=
  let seconds := nanoseconds / 1000000000
  let (year, month, day) := civilDate (seconds / 86400)
  s!"{padded 4 year}-{padded 2 month}-{padded 2 day} {padded 2 (seconds / 3600 % 24)}:" ++
    s!"{padded 2 (seconds / 60 % 60)}:{padded 2 (seconds % 60)}" ++
    fractionText (nanoseconds % 1000000000) ++ " UTC"

def runIdText (bytes : List UInt8) : String :=
  let marked := bytes.mapIdx fun index b =>
    if index = 6 then (b &&& 0x0f) ||| 0x40
    else if index = 8 then (b &&& 0x3f) ||| 0x80
    else b
  let hex := marked.flatMap fun b => [Nat.digitChar (b.toNat / 16), Nat.digitChar (b.toNat % 16)]
  "-".intercalate <|
    [hex.take 8, (hex.drop 8).take 4, (hex.drop 12).take 4, (hex.drop 16).take 4, hex.drop 20].map
      String.ofList

end Lineflow.CommandLine
