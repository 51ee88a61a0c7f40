import Lineflow.Json.Basic
import Lineflow.Number.Shortest

/-! # JSON text

`compact` writes a value on one line without blanks, `pretty` one item a line with an indentation of
two blanks. Members are written in the order of the list.
-/
namespace Lineflow.Json

/-- Numbers have a point or an exponent, and first digits from `10 ^ -5` to `10 ^ 15` are written
without one. -/
def numberLayout : Decimal.Layout where
  positional top := -5 ≤ top && top < 16
  wholePoint := true
  tie := .toEven
  notANumber := "null"
  infinite := "null"

def hexDigit (n : Nat) : Char := (Nat.digitChar n)

def escapeChar (c : Char) : List Char :=
  match c with
  | '"' => ['\\', '"']
  | '\\' => ['\\', '\\']
  | '\x08' => ['\\', 'b']
  | '\t' => ['\\', 't']
  | '\n' => ['\\', 'n']
  | '\x0c' => ['\\', 'f']
  | '\r' => ['\\', 'r']
  | c =>
    if c.toNat < 0x20 then
      ['\\', 'u', '0', '0', hexDigit (c.toNat / 16), hexDigit (c.toNat % 16)]
    else [c]

def writeString (s : String) : List Char :=
  '"' :: s.toList.flatMap escapeChar ++ ['"']

def writeInt (n : Int) : List Char :=
  if n < 0 then '-' :: Nat.toDigits 10 n.natAbs else Nat.toDigits 10 n.natAbs

mutual

def write : Json → List Char
  | .null => ['n', 'u', 'l', 'l']
  | .bool true => ['t', 'r', 'u', 'e']
  | .bool false => ['f', 'a', 'l', 's', 'e']
  | .int n => writeInt n
  | .float x => (numberLayout.write x).toList
  | .str s => writeString s
  | .arr [] => ['[', ']']
  | .arr (item :: items) => '[' :: write item ++ writeItems items
  | .obj [] => ['\x7b', '\x7d']
  | .obj ((key, value) :: members) =>
    '\x7b' :: writeString key ++ ':' :: write value ++ writeMembers members

def writeItems : List Json → List Char
  | [] => [']']
  | item :: items => ',' :: write item ++ writeItems items

def writeMembers : List (String × Json) → List Char
  | [] => ['\x7d']
  | (key, value) :: members =>
    ',' :: writeString key ++ ':' :: write value ++ writeMembers members

end

def compact (v : Json) : String := String.ofList v.write

def newline (level : Nat) : List Char := '\n' :: List.replicate (2 * level) ' '

mutual

def writePretty (level : Nat) : Json → List Char
  | .arr (item :: items) =>
    '[' :: newline (level + 1) ++ writePretty (level + 1) item ++ writePrettyItems level items
  | .obj ((key, value) :: members) =>
    '\x7b' :: newline (level + 1) ++ writeString key ++ ':' :: ' ' ::
      writePretty (level + 1) value ++ writePrettyMembers level members
  | .null => write .null
  | .bool b => write (.bool b)
  | .int n => write (.int n)
  | .float x => write (.float x)
  | .str s => write (.str s)
  | .arr [] => write (.arr [])
  | .obj [] => write (.obj [])

def writePrettyItems (level : Nat) : List Json → List Char
  | [] => newline level ++ [']']
  | item :: items =>
    ',' :: newline (level + 1) ++ writePretty (level + 1) item ++ writePrettyItems level items

def writePrettyMembers (level : Nat) : List (String × Json) → List Char
  | [] => newline level ++ ['\x7d']
  | (key, value) :: members =>
    ',' :: newline (level + 1) ++ writeString key ++ ':' :: ' ' ::
      writePretty (level + 1) value ++ writePrettyMembers level members

end

def pretty (v : Json) : String := String.ofList (v.writePretty 0)

end Lineflow.Json
