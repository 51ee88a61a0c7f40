import Lineflow.CommandLine.Arguments
import Lineflow.CommandLine.EnvironmentFile
import Lineflow.Settings.Basic

/-! # Running commands

A command reads a workflow file and checks it, prints its plan, or runs it with placeholder
functions. All access to files goes through an argument, so a command is a function of files,
environment and words.
-/
namespace Lineflow.CommandLine

inductive CommandError where
  | settings (error : SettingsError)
  | input
  | unreadable (file : String) (error : FileError)
  | notText (file : String)
  | source (file : String) (error : SourceError)
  | compile (error : CompileError)
  | render (error : Toml.OutOfRange)
  | run (error : RunError)
  | unfinished

def CommandError.message : CommandError → String
  | .settings .malformed => "Failed to load configuration"
  | .settings (.badPath fault) => fault.message
  | .settings error => "Failed to load configuration: " ++ error.message
  | .input => "--input is not valid JSON"
  | .unreadable file error => s!"Failed to read {file}: {error.message}"
  | .notText file => s!"Failed to read {file}: stream did not contain valid UTF-8"
  | .source file error => s!"Failed to parse {file}: {error.message}"
  | .compile error => error.message
  | .render error => error.message
  | .run (.functionFailed step function failure) =>
    (RunError.functionFailed step function failure).message ++ ": " ++ failure.text
  | .run error => error.message
  | .unfinished => "run is not over"

def CommandError.isCrash : CommandError → Bool
  | .settings (.badPath _) | .run (.crashed _) | .run .poolTooLarge => true
  | _ => false

inductive Output where
  | text (s : String)
  | simulation (report : RunReport) (settings : SimulatorSettings)

structure Circumstances where
  runId : String
  time : Nat → String

def visitLines (circumstances : Circumstances) (settings : SimulatorSettings) :
    Nat → List Visit → List String
  | _, [] => []
  | slept, visit :: visits =>
    ("  " ++ circumstances.time slept ++ s!" | {visit.step} | wait {visit.wait}\n") ::
      visitLines circumstances settings (slept + visit.pause settings) visits

def Output.print (circumstances : Circumstances) : Output → String
  | .text s => s
  | .simulation report settings =>
    s!"Run {circumstances.runId} finished after {report.visits.length} step(s)\n" ++
      String.join (visitLines circumstances settings 0 report.visits) ++
      "\nResult:\n  " ++ report.result.compact ++ "\n"

def Output.slept : Output → Nat
  | .text _ => 0
  | .simulation report settings => totalPause settings report.visits

def checkText (file : String) (program : Program) (plan : Plan) : String :=
  s!"✓ {file}: {program.statements.length} statement(s), " ++
    s!"{plan.requiredFunctions.length} function(s), version " ++
    String.ofList (program.version.toList.take 12) ++ "\n"

/-- A run with placeholder functions. Without overrides it only moves on, and every override takes a
layer off the initial value, which bounds its visits. -/
def dryRun (plan : Plan) (settings : SimulatorSettings) (initial : Json) :
    Except CommandError RunReport := do
  let w : Workflow Unit ← (Workflow.ofPlan plan (.stubs plan)).mapError .compile
  let bound := (Override.layers initial + 1) * plan.steps.length
  match ((w.simulate settings .inKeyOrder bound initial).run.run ()).1 with
  | .ok (some report) => return report
  | .ok none => throw .unfinished
  | .error e => throw (.run e)

def readProgram (file : String) (content : Except FileError (List UInt8)) :
    Except CommandError Program := do
  let bytes ← content.mapError (.unreadable file)
  let some text := Text.ofUtf8? bytes | throw (.notText file)
  (Program.parse text).mapError (.source file)

def planOf (program : Program) : Except CommandError Plan :=
  (Plan.ofProgram program).mapError .compile

variable {m : Type → Type} [Monad m]

def Command.execute (files : Files m) (settings : Settings) :
    Command → m (Except CommandError Output)
  | .check file => do
    let content ← files.read file
    return do
      let program ← readProgram file content
      return .text (checkText file program (← planOf program))
  | .plan file format => do
    let content ← files.read file
    return do
      let plan ← planOf (← readProgram file content)
      let text ← ((PlanReport.ofPlan plan).render format).mapError .render
      return .text (text ++ "\n")
  | .simulate file input => do
    match Json.parse input with
    | .error _ => return .error .input
    | .ok initial =>
      let content ← files.read file
      return do
        let plan ← planOf (← readProgram file content)
        let report ← dryRun plan settings.simulator initial
        return .simulation report settings.simulator

def Arguments.execute (files : Files m) (env : Environment) (arguments : Arguments) :
    m (Except CommandError Output) := do
  match ← Settings.load files env arguments.config true with
  | .error e => return .error (.settings e)
  | .ok settings => arguments.command.execute files settings

def environmentFile : String := ".env"

def fullEnvironment (files : Files m) (env : Environment) :
    m (Except EnvironmentFile.BadVariable Environment) := do
  match ← files.read environmentFile with
  | .ok content => return EnvironmentFile.load env content
  | .error _ => return .ok env

inductive ProgramError where
  | variable (error : EnvironmentFile.BadVariable)
  | arguments (error : ArgumentError)
  | command (error : CommandError)

/-- The exit status: help is no failure, and crashes have a status of their own. -/
def ProgramError.status : ProgramError → Nat
  | .arguments .help => 0
  | .arguments _ => 2
  | .variable _ => 101
  | .command error => if error.isCrash then 101 else 1

/-- The whole program: the variables come first, then the words, then the command. -/
def run (files : Files m) (env : Environment) (words : List String) :
    m (Except ProgramError Output) := do
  match ← fullEnvironment files env with
  | .error e => return .error (.variable e)
  | .ok env =>
    match Arguments.parse words with
    | .error e => return .error (.arguments e)
    | .ok arguments => return (← arguments.execute files env).mapError .command

end Lineflow.CommandLine
