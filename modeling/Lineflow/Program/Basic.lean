import Lineflow.Digest.Sha256
import Lineflow.Statement.Grammar

/-! # Programs

A program is the list of statements of a workflow text with a fingerprint of their texts. Blank
lines are dropped before positions are counted, so they change neither step names nor the
fingerprint.
-/
namespace Lineflow

structure Program where
  statements : List Statement
  version : String
deriving DecidableEq, Repr

inductive SourceError where
  | line (number : Nat) (text : String) (fault : LineFault)
  | empty
deriving DecidableEq, Repr

def SourceError.message : SourceError → String
  | .line number text fault => s!"invalid format of line {number} [{text}]: {fault.message}"
  | .empty => "workflow has no statements"

def SourceError.text? : SourceError → Option String
  | .line _ text _ => some text
  | .empty => none

namespace Program

/-- The bytes that the fingerprint is taken of: every statement's text with a line feed after it. -/
def normalForm (statements : List Statement) : List UInt8 :=
  statements.flatMap fun statement => statement.text.toUTF8.toList ++ [10]

def ofStatements (statements : List Statement) : Program :=
  { statements, version := Sha256.hexDigest (normalForm statements) }

/-- The statements of the lines from number `line` on, the first at position `index`. -/
def readLines (line index : Nat) : List (List Char) → Except SourceError (List Statement)
  | [] => .ok []
  | raw :: rest =>
    let text := Text.trim raw
    if text.isEmpty then readLines (line + 1) index rest
    else
      match Kind.ofText text with
      | .error fault => .error (.line line (String.ofList text) fault)
      | .ok kind => do
        let statements ← readLines (line + 1) (index + 1) rest
        return .at (String.ofList text) line kind index :: statements

def ofLines (lines : List (List Char)) : Except SourceError Program :=
  match readLines 1 0 lines with
  | .error e => .error e
  | .ok [] => .error .empty
  | .ok statements => .ok (ofStatements statements)

def parse (source : String) : Except SourceError Program :=
  ofLines (Text.lines source.toList)

end Program

end Lineflow
