import Lineflow.Json.Basic
import Lineflow.Number.Word

/-! # Reading JSON text

Readers take the remaining characters and return what they read with the rest. A text is refused
because it is malformed, because it ends too early, or because a well-formed value is not of the
expected kind; the first of these found from left to right is reported. Nesting is limited by an
explicit depth.
-/
namespace Lineflow.Json

inductive Fault where
  | malformed
  | truncated
  | mismatched
deriving DecidableEq, Repr

def isSpace (c : Char) : Bool := c == ' ' || c == '\t' || c == '\n' || c == '\r'

def skipSpace (cs : List Char) : List Char := cs.dropWhile isSpace

def word : List Char → List Char → Except Fault (List Char)
  | [], cs => .ok cs
  | _ :: _, [] => .error .truncated
  | w :: ws, c :: cs => if c = w then word ws cs else .error .malformed

/-! ## Strings -/

def hexValue? (c : Char) : Option Nat :=
  if '0' ≤ c ∧ c ≤ '9' then some (c.toNat - '0'.toNat)
  else if 'a' ≤ c ∧ c ≤ 'f' then some (c.toNat - 'a'.toNat + 10)
  else if 'A' ≤ c ∧ c ≤ 'F' then some (c.toNat - 'A'.toNat + 10)
  else none

/-- Four hexadecimal digits. A text with fewer than four bytes left has ended too early. -/
def hexUnit (cs : List Char) : Except Fault (Nat × List Char) :=
  match cs with
  | a :: b :: c :: d :: rest =>
    match hexValue? a, hexValue? b, hexValue? c, hexValue? d with
    | some a, some b, some c, some d => .ok (((a * 16 + b) * 16 + c) * 16 + d, rest)
    | _, _, _, _ => .error .malformed
  | short => .error (if 4 ≤ (String.ofList short).utf8ByteSize then .malformed else .truncated)

def lowSurrogate (high : Nat) (cs : List Char) : Except Fault (Char × List Char) :=
  match cs with
  | [] | ['\\'] => .error .truncated
  | '\\' :: 'u' :: rest => do
    let (low, rest) ← hexUnit rest
    if 0xdc00 ≤ low ∧ low ≤ 0xdfff then
      return (Char.ofNat (0x10000 + (high - 0xd800) * 0x400 + (low - 0xdc00)), rest)
    else throw .malformed
  | _ => .error .malformed

def escape (cs : List Char) : Except Fault (Char × List Char) :=
  match cs with
  | [] => .error .truncated
  | '"' :: rest => .ok ('"', rest)
  | '\\' :: rest => .ok ('\\', rest)
  | '/' :: rest => .ok ('/', rest)
  | 'b' :: rest => .ok ('\x08', rest)
  | 'f' :: rest => .ok ('\x0c', rest)
  | 'n' :: rest => .ok ('\n', rest)
  | 'r' :: rest => .ok ('\r', rest)
  | 't' :: rest => .ok ('\t', rest)
  | 'u' :: rest => do
    let (unit, rest) ← hexUnit rest
    if 0xdc00 ≤ unit ∧ unit ≤ 0xdfff then throw .malformed
    else if 0xd800 ≤ unit ∧ unit ≤ 0xdbff then lowSurrogate unit rest
    else return (Char.ofNat unit, rest)
  | _ => .error .malformed

/-- An escape of a string whose text does not matter: units need not form pairs. -/
def escapeIgnored (cs : List Char) : Except Fault (Unit × List Char) :=
  match cs with
  | [] => .error .truncated
  | 'u' :: rest => do
    let (_, rest) ← hexUnit rest
    return ((), rest)
  | c :: rest => if c ∈ "\"\\/bfnrt".toList then .ok ((), rest) else .error .malformed

/-- The characters of a string up to its closing quote. The first argument bounds the number of
characters and escapes; the length of the text always suffices. -/
def stringFrom : Nat → List Char → List Char → Except Fault (String × List Char)
  | 0, _, _ => .error .truncated
  | n + 1, read, cs =>
    match cs with
    | [] => .error .truncated
    | '"' :: rest => .ok (String.ofList read.reverse, rest)
    | '\\' :: rest => do
      let (c, rest) ← escape rest
      stringFrom n (c :: read) rest
    | c :: rest => if c.toNat < 0x20 then .error .malformed else stringFrom n (c :: read) rest

def string (cs : List Char) : Except Fault (String × List Char) := stringFrom (cs.length + 1) [] cs

def ignoredStringFrom : Nat → List Char → Except Fault (List Char)
  | 0, _ => .error .truncated
  | n + 1, cs =>
    match cs with
    | [] => .error .truncated
    | '"' :: rest => .ok rest
    | '\\' :: rest => do
      let (_, rest) ← escapeIgnored rest
      ignoredStringFrom n rest
    | c :: rest => if c.toNat < 0x20 then .error .malformed else ignoredStringFrom n rest

def ignoredString (cs : List Char) : Except Fault (List Char) :=
  ignoredStringFrom (cs.length + 1) cs

/-! ## Numbers -/

def digitValue (c : Char) : Nat := c.toNat - '0'.toNat

/-- Appends decimal digits to a significand while it stays within 64 bits; gives the significand and
how many digits it took. -/
def absorb (significand : Nat) : List Char → Nat × Nat
  | [] => (significand, 0)
  | c :: cs =>
    let next := significand * 10 + digitValue c
    if Word.bound ≤ next then (significand, 0)
    else
      let (total, taken) := absorb next cs
      (total, taken + 1)

def wholeNumber (negative : Bool) (significand : Nat) : Json :=
  if negative then
    if significand = 0 ∨ Word.signedBound < significand then
      .float (Double.ofFloat (-significand.toUInt64.toFloat))
    else .int (-significand)
  else .int significand

def scaledNumber (negative : Bool) (significand : Nat) (exponent : Int) (rest : List Char) :
    Except Fault (Json × List Char) :=
  match Double.scaled? negative significand exponent with
  | some x => .ok (.float x, rest)
  | none => .error .malformed

def exponentValue? (digits : List Char) : Option Nat :=
  let n := digits.foldl (fun n c => n * 10 + digitValue c) 0
  if n < 2147483648 then some n else none

def exponentPart (negative : Bool) (significand : Nat) (exponent : Int) (cs : List Char) :
    Except Fault (Json × List Char) :=
  let (down, cs) :=
    match cs with
    | '+' :: rest => (false, rest)
    | '-' :: rest => (true, rest)
    | _ => (false, cs)
  let digits := cs.takeWhile Char.isDigit
  let rest := cs.dropWhile Char.isDigit
  if digits.isEmpty then .error (if cs.isEmpty then .truncated else .malformed)
  else
    match exponentValue? digits with
    | some n =>
      scaledNumber negative significand
        (if down then exponent - (n : Int) else exponent + (n : Int)) rest
    | none =>
      if significand ≠ 0 ∧ !down then .error .malformed
      else scaledNumber negative 0 0 rest

def numberTail (negative : Bool) (significand : Nat) (dropped : Nat) (cs : List Char) :
    Except Fault (Json × List Char) :=
  match cs with
  | '.' :: rest =>
    let digits := rest.takeWhile Char.isDigit
    let after := rest.dropWhile Char.isDigit
    if digits.isEmpty then .error (if rest.isEmpty then .truncated else .malformed)
    else
      let (significand, taken) := absorb significand digits
      let exponent := (dropped : Int) - (taken : Int)
      match after with
      | 'e' :: rest | 'E' :: rest => exponentPart negative significand exponent rest
      | _ => scaledNumber negative significand exponent after
  | 'e' :: rest | 'E' :: rest => exponentPart negative significand dropped rest
  | _ =>
    if dropped = 0 then .ok (wholeNumber negative significand, cs)
    else scaledNumber negative significand dropped cs

def number (negative : Bool) (cs : List Char) : Except Fault (Json × List Char) :=
  match cs with
  | [] => .error .truncated
  | '0' :: rest =>
    match rest with
    | c :: _ => if c.isDigit then .error .malformed else numberTail negative 0 0 rest
    | [] => numberTail negative 0 0 rest
  | c :: _ =>
    if c.isDigit then
      let digits := cs.takeWhile Char.isDigit
      let (significand, taken) := absorb 0 digits
      numberTail negative significand (digits.length - taken) (cs.dropWhile Char.isDigit)
    else .error .malformed

def ignoredDigits (cs : List Char) : Except Fault (List Char) :=
  if cs.head?.any Char.isDigit then .ok (cs.dropWhile Char.isDigit) else .error .malformed

def ignoredExponent (cs : List Char) : Except Fault (List Char) :=
  match cs with
  | '+' :: rest | '-' :: rest => ignoredDigits rest
  | _ => ignoredDigits cs

def ignoredTail (cs : List Char) : Except Fault (List Char) :=
  match cs with
  | '.' :: rest => do
    match ← ignoredDigits rest with
    | 'e' :: rest | 'E' :: rest => ignoredExponent rest
    | rest => return rest
  | 'e' :: rest | 'E' :: rest => ignoredExponent rest
  | _ => .ok cs

def ignoredNumber (cs : List Char) : Except Fault (List Char) :=
  match cs with
  | '0' :: rest => if rest.head?.any Char.isDigit then .error .malformed else ignoredTail rest
  | _ => do ignoredTail (← ignoredDigits cs)

/-! ## Containers and values -/

/-- Reads elements with commas between them up to the closing character, folding them into a state.
The first argument bounds the number of elements. -/
def elementsFrom (step : σ → List Char → Except Fault (σ × List Char)) (close : Char) :
    Nat → σ → List Char → Except Fault (σ × List Char)
  | 0, _, _ => .error .truncated
  | n + 1, s, cs => do
    let (s, rest) ← step s cs
    match skipSpace rest with
    | [] => throw .truncated
    | c :: rest =>
      if c = close then return (s, rest)
      else if c = ',' then elementsFrom step close n s rest
      else throw .malformed

def elements (step : σ → List Char → Except Fault (σ × List Char)) (close : Char) (s : σ)
    (cs : List Char) : Except Fault (σ × List Char) :=
  match skipSpace cs with
  | [] => .error .truncated
  | c :: rest =>
    if c = close then .ok (s, rest) else elementsFrom step close (rest.length + 1) s (c :: rest)

def memberKey (cs : List Char) : Except Fault (String × List Char) :=
  match skipSpace cs with
  | [] => .error .truncated
  | '"' :: rest => string rest
  | _ => .error .malformed

def colon (cs : List Char) : Except Fault (List Char) :=
  match skipSpace cs with
  | [] => .error .truncated
  | ':' :: rest => .ok rest
  | _ => .error .malformed

def itemStep (item : List Char → Except Fault (Json × List Char)) (read : List Json)
    (cs : List Char) : Except Fault (List Json × List Char) := do
  let (v, rest) ← item cs
  return (v :: read, rest)

def memberStep (item : List Char → Except Fault (Json × List Char)) (read : List (String × Json))
    (cs : List Char) : Except Fault (List (String × Json) × List Char) := do
  let (key, rest) ← memberKey cs
  let rest ← colon rest
  let (v, rest) ← item rest
  return ((key, v) :: read, rest)

def arrayItems (item : List Char → Except Fault (Json × List Char)) (cs : List Char) :
    Except Fault (List Json × List Char) := do
  let (items, rest) ← elements (itemStep item) ']' [] cs
  return (items.reverse, rest)

def value (depth : Nat) (cs : List Char) : Except Fault (Json × List Char) :=
  match skipSpace cs with
  | [] => .error .truncated
  | 'n' :: rest => do return (.null, ← word ['u', 'l', 'l'] rest)
  | 't' :: rest => do return (.bool true, ← word ['r', 'u', 'e'] rest)
  | 'f' :: rest => do return (.bool false, ← word ['a', 'l', 's', 'e'] rest)
  | '"' :: rest => do
    let (s, rest) ← string rest
    return (.str s, rest)
  | '[' :: rest =>
    match depth with
    | 0 => .error .malformed
    | depth + 1 => do
      let (items, rest) ← arrayItems (value depth) rest
      return (.arr items, rest)
  | '\x7b' :: rest =>
    match depth with
    | 0 => .error .malformed
    | depth + 1 => do
      let (members, rest) ← elements (memberStep (value depth)) '\x7d' [] rest
      return (ofMembers members.reverse, rest)
  | '-' :: rest => number true rest
  | c :: rest => if c.isDigit then number false (c :: rest) else .error .malformed

def ignoredStep (item : List Char → Except Fault (List Char)) (_ : Unit) (cs : List Char) :
    Except Fault (Unit × List Char) := do
  return ((), ← item cs)

def ignoredMember (item : List Char → Except Fault (List Char)) (_ : Unit) (cs : List Char) :
    Except Fault (Unit × List Char) :=
  match skipSpace cs with
  | [] => .error .truncated
  | '"' :: rest => do
    let rest ← ignoredString rest
    let rest ← colon rest
    return ((), ← item rest)
  | _ => .error .malformed

def ignoredFrom (depth : Nat) (cs : List Char) : Except Fault (List Char) :=
  match skipSpace cs with
  | [] => .error .truncated
  | 'n' :: rest => word ['u', 'l', 'l'] rest
  | 't' :: rest => word ['r', 'u', 'e'] rest
  | 'f' :: rest => word ['a', 'l', 's', 'e'] rest
  | '"' :: rest => ignoredString rest
  | '[' :: rest =>
    match depth with
    | 0 => .error .truncated
    | depth + 1 => do
      let (_, rest) ← elements (ignoredStep (ignoredFrom depth)) ']' () rest
      return rest
  | '\x7b' :: rest =>
    match depth with
    | 0 => .error .truncated
    | depth + 1 => do
      let (_, rest) ← elements (ignoredMember (ignoredFrom depth)) '\x7d' () rest
      return rest
  | '-' :: rest => ignoredNumber rest
  | c :: rest => if c.isDigit then ignoredNumber (c :: rest) else .error .malformed

def ignored (cs : List Char) : Except Fault (List Char) := ignoredFrom (cs.length + 1) cs

def mismatch (cs : List Char) : Fault :=
  let after {α : Type} : Except Fault α → Fault
    | .ok _ => .mismatched
    | .error fault => fault
  match cs with
  | 'n' :: rest => after (word ['u', 'l', 'l'] rest)
  | 't' :: rest => after (word ['r', 'u', 'e'] rest)
  | 'f' :: rest => after (word ['a', 'l', 's', 'e'] rest)
  | '"' :: rest => after (string rest)
  | '[' :: _ | '\x7b' :: _ => .mismatched
  | '-' :: rest => after (number true rest)
  | c :: rest => if c.isDigit then after (number false (c :: rest)) else .malformed
  | [] => .truncated

def finish (r : Except Fault (α × List Char)) : Except Fault α := do
  let (a, rest) ← r
  if (skipSpace rest).isEmpty then return a else throw .malformed

def depthLimit : Nat := 127

def parse (text : String) : Except Fault Json := finish (value depthLimit text.toList)

end Lineflow.Json
