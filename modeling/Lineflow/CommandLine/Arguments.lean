import Lineflow.Plan.Report

/-! # Command-line arguments

A command line has options of the program, a command, and the command's own options and file. An
option takes its value from the same word or from the next; values are checked when the next option,
the next file or the end is reached, while an unknown option is refused at once.
-/
namespace Lineflow.CommandLine

inductive ArgumentError where
  | help
  | helpOnNothing
  | missingCommand
  | unknownCommand
  | unknownArgument
  | invalidValue
  | repeatedOption
  | missingFile
  | unwantedValue
deriving DecidableEq, Repr

inductive Command where
  | check (file : String)
  | plan (file : String) (format : ReportFormat)
  | simulate (file : String) (input : String)
deriving DecidableEq, Repr

structure Arguments where
  config : Option String
  command : Command
deriving DecidableEq, Repr

inductive Level where
  | program
  | check
  | plan
  | simulate
deriving DecidableEq, Repr

def Level.ofName? : String → Option Level
  | "check" => some .check
  | "plan" => some .plan
  | "simulate" => some .simulate
  | _ => none

inductive Parameter where
  | config
  | format
  | input
  | file
deriving DecidableEq, Repr

def Level.long? (level : Level) (name : String) : Option Parameter :=
  match level, name with
  | _, "config" => some .config
  | .plan, "format" => some .format
  | .simulate, "input" => some .input
  | _, _ => none

def Level.short? (level : Level) (letter : Char) : Option Parameter :=
  match level, letter with
  | .plan, 'f' => some .format
  | .simulate, 'i' => some .input
  | _, _ => none

def Parameter.accepts : Parameter → String → Bool
  | .config, value | .file, value => !value.isEmpty
  | .format, value => value == "json" || value == "toml"
  | .input, _ => true

structure Scan where
  values : List (Parameter × String) := []
  pending : Option (Parameter × Option String) := none
  awaiting : Bool := false
  hasFile : Bool := false
  plain : Bool := false

namespace Scan

def accept (s : Scan) (parameter : Parameter) (value : Option String) :
    Except ArgumentError Scan :=
  match value with
  | none => .error .invalidValue
  | some value =>
    if (s.values.lookup parameter).isSome then .error .repeatedOption
    else if parameter.accepts value then .ok { s with values := (parameter, value) :: s.values }
    else .error .invalidValue

def resolve (s : Scan) : Except ArgumentError Scan :=
  match s.pending with
  | none => .ok { s with awaiting := false }
  | some (parameter, value) => { s with pending := none, awaiting := false }.accept parameter value

def option (s : Scan) (parameter : Parameter) (attached : Option String) :
    Except ArgumentError Scan := do
  let s ← s.resolve
  match attached with
  | some value => s.accept parameter (some value)
  | none => return { s with pending := some (parameter, none), awaiting := true }

/-- Answers a request for help, unless something before it is wrong. -/
def askHelp (s : Scan) : Except ArgumentError Scan := do
  let _ ← s.resolve
  throw .help

def long (level : Level) (s : Scan) (word : List Char) : Except ArgumentError Scan :=
  let name := word.takeWhile (· != '=')
  let attached := match word.drop name.length with
    | '=' :: value => some (String.ofList value)
    | _ => none
  match level.long? (String.ofList name) with
  | some parameter => s.option parameter attached
  | none =>
    if name = "help".toList then
      if attached.isSome then .error .unwantedValue else s.askHelp
    else .error .unknownArgument

def short (level : Level) (s : Scan) (letter : Char) (rest : List Char) :
    Except ArgumentError Scan :=
  match level.short? letter with
  | some parameter =>
    s.option parameter <|
      match rest with
      | [] => none
      | '=' :: value => some (String.ofList value)
      | value => some (String.ofList value)
  | none => if letter = 'h' then s.askHelp else .error .unknownArgument

def file (s : Scan) (word : String) : Except ArgumentError Scan :=
  if s.hasFile then .error .unknownArgument
  else do
    let s ← s.resolve
    return { s with pending := some (.file, some word), hasFile := true }

def stray (s : Scan) (word : String) : ArgumentError :=
  if s.plain && ((Level.ofName? word).isSome || word == "help") then .unknownArgument
  else .unknownCommand

def word (level : Level) (s : Scan) (word : String) : Except ArgumentError Scan :=
  let plainWord : Except ArgumentError Scan :=
    if level = .program then .error (s.stray word) else s.file word
  if s.plain then plainWord
  else
    match word.toList with
    | ['-', '-'] => .ok { s with plain := true }
    | '-' :: '-' :: rest => s.long level rest
    | '-' :: letter :: rest => s.short level letter rest
    | _ =>
      if s.awaiting then
        .ok { s with pending := s.pending.map fun p => (p.1, some word), awaiting := false }
      else plainWord

end Scan

def scanCommand (level : Level) (words : List String) : Except ArgumentError Scan := do
  let s ← words.foldlM (Scan.word level) {}
  s.resolve

def Level.command? (level : Level) (s : Scan) : Except ArgumentError Command :=
  match s.values.lookup .file with
  | none => .error .missingFile
  | some file =>
    match level with
    | .plan =>
      .ok (.plan file (if s.values.lookup .format = some "toml" then .toml else .json))
    | .simulate => .ok (.simulate file ((s.values.lookup .input).getD "null"))
    | _ => .ok (.check file)

/-- Help on a command exists for the commands and for help itself. -/
def askHelpOn : List String → ArgumentError
  | [] => .help
  | [name] => if (Level.ofName? name).isSome || name == "help" then .help else .unknownCommand
  | _ => .unknownCommand

def scanProgram (s : Scan) : List String → Except ArgumentError Arguments
  | [] => do
    let s ← s.resolve
    throw (if s.values.isEmpty then .helpOnNothing else .missingCommand)
  | word :: words =>
    let next : Except ArgumentError Arguments := do
      let s ← s.word .program word
      scanProgram s words
    if s.plain || s.awaiting then next
    else if word = "help" then .error (askHelpOn words)
    else
      match Level.ofName? word with
      | none => next
      | some level => do
        let inner ← scanCommand level words
        let command ← level.command? inner
        let s ← s.resolve
        return { config := (inner.values.lookup .config).or (s.values.lookup .config), command }

def Arguments.parse (words : List String) : Except ArgumentError Arguments := scanProgram {} words

end Lineflow.CommandLine
