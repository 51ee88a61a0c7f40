import Lineflow.Settings.Environment
import Lineflow.Settings.Error
import Lineflow.Simulator.Stored

/-! # From a tree of settings to a record

Conversions are lenient: numbers, truth values and texts stand for one another where that makes
sense.
-/
namespace Lineflow

structure Settings where
  simulator : SimulatorSettings := {}
  logLevel : String := "info"
  logJson : Bool := false
deriving DecidableEq, Repr

namespace Setting

def mismatch (s : Setting) (wanted : Wanted) (key : String) : SettingsError :=
  match s with
  | .scalar origin value => .mismatch (.scalar value) wanted key origin
  | .list origin _ => .mismatch .list wanted key origin
  | .table origin _ => .mismatch .table wanted key origin

def numeral? (s : String) : Option Nat :=
  let digits := match s.toList with
    | '+' :: rest => rest
    | cs => cs
  if digits.isEmpty || !digits.all Char.isDigit then none
  else
    let n := Environment.digitsValue digits
    if n < Word.bound then some n else none

/-- Truth values, rounded numbers, words for yes and no, and numerals all count. -/
def toUnsigned (s : Setting) (key : String) : Except SettingsError Nat :=
  match s with
  | .scalar origin (.int n) =>
    if 0 ≤ n then .ok n.toNat else .error (.mismatch (.scalar (.int n)) .unsigned key origin)
  | .scalar _ (.bool b) => .ok b.toNat
  | .scalar _ (.float x) => .ok x.roundUnsigned
  | .scalar _ (.text text) =>
    let word := Text.lower text
    if word ∈ ["true", "on", "yes"] then .ok 1
    else if word ∈ ["false", "off", "no"] then .ok 0
    else
      match numeral? text with
      | some n => .ok n
      | none => .error (s.mismatch .integer key)
  | _ => .error (s.mismatch .integer key)

def toBool (s : Setting) (key : String) : Except SettingsError Bool :=
  match s with
  | .scalar _ (.bool b) => .ok b
  | .scalar _ (.int n) => .ok (n != 0)
  | .scalar _ (.float x) => .ok (!x.isZero)
  | .scalar origin (.text text) =>
    let word := Text.lower text
    if word ∈ ["1", "true", "on", "yes"] then .ok true
    else if word ∈ ["0", "false", "off", "no"] then .ok false
    else .error (.mismatch (.scalar (.text word)) .boolean key origin)
  | _ => .error (s.mismatch .boolean key)

/-- Every value without parts but the empty one has a text. -/
def toText (s : Setting) (key : String) : Except SettingsError String :=
  match s with
  | .scalar _ (.text text) => .ok text
  | .scalar _ (.bool b) => .ok (toString b)
  | .scalar _ (.int n) => .ok (toString n)
  | .scalar _ (.float x) => .ok (plainNumbers.write x)
  | _ => .error (s.mismatch .string key)

def pauseNamed (name : String) : Except SettingsError PauseMode :=
  match PauseMode.ofLabel? (Text.lower name) with
  | some mode => .ok mode
  | none => .error (.unknownPause name)

/-- A mode by name, or a table with its name for the only key. -/
def toPause : Setting → Except SettingsError PauseMode
  | .scalar _ (.text name) => pauseNamed name
  | .table _ [(name, _)] => pauseNamed name
  | _ => .error .pauseShape

def orDefault (default : α) (convert : Setting → Except SettingsError α) :
    Option Setting → Except SettingsError α
  | some s => convert s
  | none => .ok default

def toSimulator (s : Setting) : Except SettingsError SimulatorSettings := do
  let built : SimulatorSettings := {}
  let read (field : Nat → String → String × Option Setting) :
      Except SettingsError SimulatorSettings := do
    let (sizeKey, size) := field 0 "worker_pool_size"
    let (_, pause) := field 1 "pause"
    let (msKey, ms) := field 2 "fixed_pause_ms"
    let (failKey, failFast) := field 3 "fail_fast"
    return {
      workerPoolSize := ← orDefault built.workerPoolSize (toUnsigned · sizeKey) size
      pause := ← orDefault built.pause toPause pause
      fixedPauseMs := ← orDefault built.fixedPauseMs (toUnsigned · msKey) ms
      failFast := ← orDefault built.failFast (toBool · failKey) failFast }
  match s with
  | .table _ members => read fun _ name => (s!"simulator.{name}", members.lookup name)
  | .list _ items => read fun index _ => (s!"simulator[{index}]", items[index]?)
  | .scalar _ value => throw (.notSimulator value)

def toSettings (s : Setting) : Except SettingsError Settings := do
  let built : Settings := {}
  let logJson ← orDefault built.logJson (toBool · "log_json") (s.child? "log_json")
  let logLevel ← orDefault built.logLevel (toText · "log_level") (s.child? "log_level")
  let simulator ← orDefault built.simulator toSimulator (s.child? "simulator")
  if simulator.workerPoolSize = 0 then throw .emptyPool
  return { simulator, logLevel, logJson }

def builtIn : Setting :=
  let built : Settings := {}
  .table none [
    ("simulator", .table none [
      ("worker_pool_size", .scalar none (.int built.simulator.workerPoolSize)),
      ("pause", .scalar none (.text built.simulator.pause.label)),
      ("fixed_pause_ms", .scalar none (.int built.simulator.fixedPauseMs)),
      ("fail_fast", .scalar none (.bool built.simulator.failFast))]),
    ("log_level", .scalar none (.text built.logLevel)),
    ("log_json", .scalar none (.bool built.logJson))]

end Setting

end Lineflow
