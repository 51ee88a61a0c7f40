import Lineflow.Number.Shortest
import Lineflow.Settings.Layer
import Lineflow.Text.Quoted

/-! # Errors in settings

Why settings cannot be loaded, and how that is said.
-/
namespace Lineflow

def plainNumbers : Decimal.Layout where
  positional _ := true
  wholePoint := false
  tie := .up
  notANumber := "NaN"
  infinite := "inf"

inductive Found where
  | scalar (value : Scalar)
  | list
  | table
deriving DecidableEq

inductive Wanted where
  | integer
  | unsigned
  | boolean
  | string
deriving DecidableEq

inductive SettingsError where
  | mismatch (found : Found) (wanted : Wanted) (key : String) (origin : Option String)
  | unknownPause (text : String)
  | pauseShape
  | notSimulator (found : Scalar)
  | emptyPool
  | fileNotFound (path : String)
  | unknownFormat (path : String)
  | malformed
  | notText
  | badPath (fault : Setting.PathFault)
deriving DecidableEq

def Found.describe : Found → String
  | .scalar .nil => "unit value"
  | .scalar (.bool b) => s!"boolean `{b}`"
  | .scalar (.int n) => s!"64-bit integer `{n}`"
  | .scalar (.float x) => "floating point `" ++ plainNumbers.write x ++ "`"
  | .scalar (.text s) => "string " ++ Text.quoted s
  | .list => "sequence"
  | .table => "map"

def Scalar.describe : Scalar → String
  | .nil => "unit value"
  | .bool b => s!"boolean `{b}`"
  | .int n => s!"integer `{n}`"
  | .float x => "floating point `" ++ { plainNumbers with wholePoint := true }.write x ++ "`"
  | .text s => "string " ++ Text.quoted s

def Wanted.describe : Wanted → String
  | .integer => "an integer"
  | .unsigned => "an unsigned 64 bit or less integer"
  | .boolean => "a boolean"
  | .string => "a string"

def SettingsError.message : SettingsError → String
  | .mismatch found wanted key origin =>
    "invalid type: " ++ found.describe ++ ", expected " ++ wanted.describe ++ " for key `" ++ key ++
      "`" ++ (match origin with
        | some origin => " in " ++ origin
        | none => "")
  | .unknownPause text => "enum PauseMode does not have variant constructor " ++ text
  | .pauseShape =>
    "value of enum PauseMode should be represented by either string or table with exactly one key"
  | .notSimulator found =>
    "invalid type: " ++ found.describe ++ ", expected struct SimulatorConfig"
  | .emptyPool => "simulator.worker_pool_size must be at least 1"
  | .fileNotFound path => s!"configuration file \"{path}\" not found"
  | .unknownFormat path => s!"configuration file \"{path}\" is not of a registered file format"
  | .malformed => ""
  | .notText => "stream did not contain valid UTF-8"
  | .badPath fault => fault.message

end Lineflow
