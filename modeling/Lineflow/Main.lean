import Lineflow.CommandLine.Clock
import Lineflow.CommandLine.Run
import Std.Time.DateTime.Timestamp

/-! # The program

Connects the commands with files, environment, clock and terminal.
-/
namespace Lineflow

open CommandLine

def usage : String :=
  "Usage: [--config <FILE>] <COMMAND>\n\n" ++
  "Commands:\n" ++
  "  check <FILE>                     Parse and plan a workflow file\n" ++
  "  plan <FILE> [-f json|toml]       Print steps, transitions and required functions\n" ++
  "  simulate <FILE> [-i <JSON>]      Dry-run a workflow with placeholder functions\n"

def ofSystemError (e : IO.Error) : FileError :=
  match e with
  | .noFileOrDirectory .. => .notFound
  | .inappropriateType _ 21 _ => .isDirectory
  | .inappropriateType .. => .notDirectory
  | .invalidArgument .. => .nameTooLong
  | e => .other (toString e)

def readFile (path : String) : IO (Except FileError (List UInt8)) := do
  try
    return .ok (← IO.FS.readBinFile path).toList
  catch e => return .error (ofSystemError e)

def systemFiles : Files IO where
  isFile path := do return (← readFile path).toOption.isSome
  read := readFile

def systemEnvironment : IO Environment :=
  Environment.usualNames.filterMapM fun name => do
    return (← IO.getEnv name).map (name, ·)

def sleep (ms : Nat) : IO Unit := do
  for _ in [0 : ms / 60000] do
    IO.sleep 60000
  IO.sleep (ms % 60000).toUInt32

def circumstances : IO Circumstances := do
  let id ← IO.getRandomBytes 16
  let now ← Std.Time.Timestamp.now
  let start := now.toNanosecondsSinceUnixEpoch.val.toNat
  return { runId := runIdText id.toList, time := fun ms => momentText (start + 1000000 * ms) }

end Lineflow

open Lineflow Lineflow.CommandLine in
def main (words : List String) : IO UInt32 := do
  let circumstances ← circumstances
  match ← CommandLine.run systemFiles (← systemEnvironment) words with
  | .ok output =>
    sleep output.slept
    IO.print (output.print circumstances)
    return 0
  | .error e =>
    match e with
    | .arguments .help => IO.print usage
    | .arguments _ => IO.eprint usage
    | .variable e => IO.eprintln e.message
    | .command e => IO.eprintln ("Error: " ++ e.message)
    return e.status.toUInt32
