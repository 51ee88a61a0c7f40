import Lineflow.Number.Word

/-! # TOML text

Texts are written in the plainest form that can hold them: between double quotes, then between
single quotes, then the multi-line forms, and escapes only where nothing else will do.
-/
namespace Lineflow.Toml

def isControl (c : Char) : Bool :=
  (c.toNat < 0x20 && c != '\t' && c != '\n') || c.toNat == 0x7f

def longestRun (c : Char) (cs : List Char) : Nat :=
  (cs.foldl
    (fun (run, longest) d => if d = c then (run + 1, max longest (run + 1)) else (0, longest))
    (0, 0)).2

def hex4 (n : Nat) : List Char :=
  [n / 4096, n / 256 % 16, n / 16 % 16, n % 16].map fun d => (Nat.digitChar d).toUpper

/-- The characters between double quotes. Up to `quotes` quotes in a row stand for themselves; `run`
of them come right before. -/
def escaped (multiline : Bool) (quotes : Nat) : Nat → List Char → List Char
  | _, [] => []
  | run, c :: cs =>
    match c with
    | '"' =>
      if run < quotes then c :: escaped multiline quotes (run + 1) cs
      else '\\' :: '"' :: escaped multiline quotes 0 cs
    | '\x08' => '\\' :: 'b' :: escaped multiline quotes 0 cs
    | '\t' => '\\' :: 't' :: escaped multiline quotes 0 cs
    | '\n' =>
      if multiline then c :: escaped multiline quotes 0 cs
      else '\\' :: 'n' :: escaped multiline quotes 0 cs
    | '\x0c' => '\\' :: 'f' :: escaped multiline quotes 0 cs
    | '\r' => '\\' :: 'r' :: escaped multiline quotes 0 cs
    | '\\' => '\\' :: '\\' :: escaped multiline quotes 0 cs
    | c =>
      if isControl c then '\\' :: 'u' :: hex4 c.toNat ++ escaped multiline quotes 0 cs
      else c :: escaped multiline quotes 0 cs

inductive TextForm where
  | basic
  | literal
  | multilineBasic
  | multilineLiteral
deriving DecidableEq, Repr

def TextForm.of (cs : List Char) : TextForm :=
  let control := cs.any isControl
  let newline := cs.any (· == '\n')
  let backslash := cs.any (· == '\\')
  if !control && !backslash && longestRun '"' cs == 0 && !newline then .basic
  else if !control && longestRun '\'' cs == 0 && !newline then .literal
  else if !control && !backslash && longestRun '"' cs ≤ 2 then .multilineBasic
  else if !control && longestRun '\'' cs ≤ 2 then .multilineLiteral
  else if newline then .multilineBasic
  else .basic

/-- A text in its form; multi-line forms start on a line of their own if the text has several. -/
def writeText (s : String) : String :=
  let cs := s.toList
  let opening := if cs.any (· == '\n') then ['\n'] else []
  String.ofList <|
    match TextForm.of cs with
    | .basic => '"' :: escaped false 0 0 cs ++ ['"']
    | .literal => '\'' :: cs ++ ['\'']
    | .multilineBasic =>
      '"' :: '"' :: '"' :: opening ++ escaped true 2 0 cs ++ ['"', '"', '"']
    | .multilineLiteral => '\'' :: '\'' :: '\'' :: opening ++ cs ++ ['\'', '\'', '\'']

inductive Item where
  | text (s : String)
  | integer (n : Nat)

structure OutOfRange where
deriving DecidableEq, Repr

def OutOfRange.message (_ : OutOfRange) : String := "out-of-range value for u64 type"

def Item.write : Item → Except OutOfRange String
  | .text s => .ok (writeText s)
  | .integer n => if n < Word.signedBound then .ok (toString n) else .error {}

def writeEntries (entries : List (String × Item)) : Except OutOfRange String := do
  let lines ← entries.mapM fun (key, item) => do return key ++ " = " ++ (← item.write) ++ "\n"
  return String.join lines

def writeTables (name : String) (tables : List (List (String × Item))) :
    Except OutOfRange String := do
  let texts ← tables.mapM fun entries => do
    return "\n[[" ++ name ++ "]]\n" ++ (← writeEntries entries)
  return String.join texts

end Lineflow.Toml
