import Lineflow.Settings.Environment
import Lineflow.Text.Alphanumeric
import Lineflow.Text.Blank
import Lineflow.Text.Quoted
import Lineflow.Text.Utf8

/-! # Environment files

A file of lines `NAME=value` adds variables to an environment and replaces none. Values can be
quoted, can refer to other variables, and can span lines inside quotes. Reading stops at the first
faulty line, and fails as a whole where a variable cannot hold its value.
-/
namespace Lineflow.EnvironmentFile

/-! ## Logical lines -/

inductive LineState where
  | complete
  | space
  | escape
  | double
  | doubleEscape
  | single
  | singleEscape
  | comment
deriving DecidableEq, Repr

def outside (afterSpace : Bool) (c : Char) : LineState :=
  if c = '#' ∧ afterSpace then .comment
  else if c = '\\' then .escape
  else if c = '"' then .double
  else if c = '\'' then .single
  else if !afterSpace && isBlank c && c != '\n' && c != '\r' then .space
  else .complete

def LineState.next : LineState → Char → LineState
  | .complete, c => outside false c
  | .space, c => outside true c
  | .escape, _ => .complete
  | .double, c => if c = '\\' then .doubleEscape else if c = '"' then .complete else .double
  | .doubleEscape, _ => .double
  | .single, c => if c = '\\' then .singleEscape else if c = '\'' then .complete else .single
  | .singleEscape, _ => .single
  | .comment, _ => .comment

def scanLine (state : LineState) : List Char → List Char × LineState
  | [] => ([], state)
  | c :: cs =>
    match state.next c with
    | .comment => ([], .comment)
    | state =>
      let (text, final) := scanLine state cs
      (c :: text, final)

/-- Joins physical lines, each with its line end, while quotes are open. Reading ends with none
where a line is no text, or where the last one is not complete. -/
def logicalLines (held : List Char) (state : LineState) :
    List (Option (List Char)) → List (Option (List Char))
  | [] => if state = .complete then [] else [none]
  | none :: _ => [none]
  | some line :: lines =>
    let start := held ++ line
    if (start.dropWhile isBlank).head? = some '#' then
      some [] :: logicalLines [] .complete lines
    else
      match scanLine state line with
      | (text, .complete) => some (held ++ text) :: logicalLines [] .complete lines
      | (text, .comment) => some (held ++ text) :: logicalLines [] .complete lines
      | (text, state) => logicalLines (held ++ text) state lines

/-! ## Assignments -/

def isNameStart (c : Char) : Bool := c.isAlpha || c == '_'

def isNameChar (c : Char) : Bool := c.isAlphanum || c == '_' || c == '.'

def name? (cs : List Char) : Option (String × List Char) :=
  match cs with
  | [] => none
  | c :: _ =>
    if isNameStart c then some (String.ofList (cs.takeWhile isNameChar), cs.dropWhile isNameChar)
    else none

def skipBlank (cs : List Char) : List Char := cs.dropWhile isBlank

inductive Mode where
  | bare
  | double
  | single
  | done
deriving DecidableEq, Repr

inductive Reference where
  | none
  | plain
  | braced
deriving DecidableEq, Repr

structure ValueState where
  mode : Mode := .bare
  escaped : Bool := false
  reference : Reference := .none
  name : List Char := []
  output : List Char := []

def ValueState.substitute (find : String → String) (s : ValueState) : ValueState :=
  { s with
    output := (find (String.ofList s.name.reverse)).toList.reverse ++ s.output
    name := []
    reference := .none }

def ValueState.emit (s : ValueState) (c : Char) : ValueState := { s with output := c :: s.output }

def ValueState.step (find : String → String) (s : ValueState) (c : Char) : Option ValueState :=
  if s.mode = .done then if c = ' ' ∨ c = '\t' then some s else none
  else if s.escaped then
    if c ∈ ['\\', '\'', '"', '$', ' '] then some ({ s with escaped := false }.emit c)
    else if c = 'n' then some ({ s with escaped := false }.emit '\n')
    else none
  else if s.mode = .single then
    some (if c = '\'' then { s with mode := .bare } else s.emit c)
  else
    match s.reference with
    | .plain =>
      if Text.isAlphanumeric c then some { s with name := c :: s.name }
      else if c = '\x7b' ∧ s.name.isEmpty then some { s with reference := .braced }
      else
        let s := s.substitute find
        some (if c = '$' then { s with reference := .plain } else s.emit c)
    | .braced =>
      if c = '\x7d' then some (s.substitute find) else some { s with name := c :: s.name }
    | .none =>
      if c = '$' then some { s with reference := .plain }
      else if s.mode = .double then
        some (if c = '"' then { s with mode := .bare }
          else if c = '\\' then { s with escaped := true }
          else s.emit c)
      else if c = '\'' then some { s with mode := .single }
      else if c = '"' then some { s with mode := .double }
      else if c = '\\' then some { s with escaped := true }
      else if c = ' ' ∨ c = '\t' then some { s with mode := .done }
      else some (s.emit c)

def ValueState.run (find : String → String) (s : ValueState) : List Char → Option ValueState
  | [] => some s
  | c :: cs =>
    if s.mode = .done ∧ c = '#' then some s
    else do
      let s ← s.step find c
      s.run find cs

def value? (find : String → String) (cs : List Char) : Option String := do
  let s ← ValueState.run find {} cs
  if s.reference = .braced ∨ s.mode = .single ∨ s.mode = .double then none
  else return String.ofList (s.substitute find).output.reverse

/-- What a line assigns: nothing, or a value to a name. The outer none is a fault. -/
def assignment? (find : String → String) (line : List Char) : Option (Option (String × String)) :=
  let cs := Text.trim line
  if cs.isEmpty ∨ cs.head? = some '#' then some none
  else do
    let (name, rest) ← name? cs
    let (name, rest) ← match skipBlank rest with
      | '=' :: rest => some (name, rest)
      | rest =>
        if name = "export" then do
          let (name, rest) ← name? rest
          match skipBlank rest with
          | '=' :: rest => some (name, rest)
          | _ => none
        else none
    let rest := skipBlank rest
    if rest.isEmpty ∨ rest.head? = some '#' then return some (name, "")
    else return some (name, ← value? find rest)

/-- A variable that is to hold a NUL, which ends the values of all variables. -/
structure BadVariable where
  name : String
  value : String
deriving DecidableEq, Repr

def BadVariable.message (bad : BadVariable) : String :=
  "failed to set environment variable " ++ Text.quoted bad.name

def add (env : Environment) (name value : String) : Except BadVariable Environment :=
  if (env.lookup name).isSome then .ok env
  else if value.contains '\x00' then .error ⟨name, value⟩
  else .ok (env ++ [(name, value)])

/-- Adds what the lines assign, up to a fault. Assigned names are remembered, also where the
environment already has them. -/
def loadLines (env assigned : Environment) :
    List (Option (List Char)) → Except BadVariable Environment
  | [] | none :: _ => .ok env
  | some line :: lines =>
    let find (name : String) : String := ((env.lookup name).or (assigned.lookup name)).getD ""
    match assignment? find line with
    | none => .ok env
    | some none => loadLines env assigned lines
    | some (some (name, value)) => do
      let env ← add env name value
      loadLines env ((name, value) :: assigned) lines

def cutLines : List UInt8 → List (List UInt8)
  | [] => []
  | b :: bytes =>
    if b = 10 then [b] :: cutLines bytes
    else
      match cutLines bytes with
      | [] => [[b]]
      | line :: lines => (b :: line) :: lines

def physicalLines (content : List UInt8) : List (Option (List Char)) :=
  let content := match content with
    | 0xef :: 0xbb :: 0xbf :: rest => rest
    | _ => content
  (cutLines content).map fun line => (Text.ofUtf8? line).map String.toList

def load (env : Environment) (content : List UInt8) : Except BadVariable Environment :=
  loadLines env [] (logicalLines [] .complete (physicalLines content))

end Lineflow.EnvironmentFile
