import Lineflow.Number.Double
import Lineflow.Number.Word
import Lineflow.Toml.Moment

/-! # Reading TOML text

A document is a list of lines that assign values to dotted keys or open a table. Reading gives the
tree of tables, or nothing if the text is malformed or defines something twice.
-/
namespace Lineflow.Toml

inductive Value where
  | text (s : String)
  | integer (n : Int)
  | float (x : Double)
  | boolean (b : Bool)
  | moment (m : Moment)
  | array (items : List Value)
  | table (members : List (String × Value))
deriving Inhabited

/-! ## Characters -/

def isSpace (c : Char) : Bool := c == ' ' || c == '\t'

def skipSpace (cs : List Char) : List Char := cs.dropWhile isSpace

def isBarred (c : Char) : Bool := (c.toNat < 0x20 && c != '\t') || c.toNat == 0x7f

def lineBreak? : List Char → Option (List Char)
  | '\n' :: rest => some rest
  | '\r' :: '\n' :: rest => some rest
  | _ => none

def skipComment (cs : List Char) : List Char :=
  match cs with
  | '#' :: rest => rest.dropWhile (!isBarred ·)
  | _ => cs

def lineEnd? (cs : List Char) : Option (List Char) :=
  match skipComment (skipSpace cs) with
  | [] => some []
  | cs => lineBreak? cs

def skipLines (skip : List Char → List Char) : Nat → List Char → List Char
  | 0, cs => cs
  | n + 1, cs =>
    let cs := skip (skipSpace cs)
    match lineBreak? cs with
    | some rest => skipLines skip n rest
    | none => cs

/-! ## Strings -/

def hexDigit? (c : Char) : Option Nat :=
  if '0' ≤ c ∧ c ≤ '9' then some (c.toNat - '0'.toNat)
  else if 'a' ≤ c ∧ c ≤ 'f' then some (c.toNat - 'a'.toNat + 10)
  else if 'A' ≤ c ∧ c ≤ 'F' then some (c.toNat - 'A'.toNat + 10)
  else none

def codePoint? (count : Nat) (cs : List Char) : Option (Char × List Char) := do
  let digits ← (cs.take count).mapM hexDigit?
  let n := digits.foldl (fun n d => n * 16 + d) 0
  if digits.length = count ∧ n.isValidChar then some (Char.ofNat n, cs.drop count) else none

def escape? : List Char → Option (Char × List Char)
  | 'b' :: rest => some ('\x08', rest)
  | 't' :: rest => some ('\t', rest)
  | 'n' :: rest => some ('\n', rest)
  | 'f' :: rest => some ('\x0c', rest)
  | 'r' :: rest => some ('\r', rest)
  | '"' :: rest => some ('"', rest)
  | '\\' :: rest => some ('\\', rest)
  | 'u' :: rest => codePoint? 4 rest
  | 'U' :: rest => codePoint? 8 rest
  | _ => none

def basicString? : Nat → List Char → List Char → Option (String × List Char)
  | 0, _, _ => none
  | n + 1, read, cs =>
    match cs with
    | '"' :: rest => some (String.ofList read.reverse, rest)
    | '\\' :: rest => do
      let (c, rest) ← escape? rest
      basicString? n (c :: read) rest
    | c :: rest => if isBarred c then none else basicString? n (c :: read) rest
    | [] => none

def literalString? (cs : List Char) : Option (String × List Char) :=
  let inside := cs.takeWhile fun c => c != '\'' && !isBarred c
  match cs.drop inside.length with
  | '\'' :: rest => some (String.ofList inside, rest)
  | _ => none

def quoteRun (quote : Char) (limit : Nat) (cs : List Char) : Nat :=
  ((cs.take limit).takeWhile (· == quote)).length

/-- A string between triple quotes, after the first three and a line break. Up to two quotes may
stand before the closing ones. Every line break counts as a line feed, and a backslash before one
takes it away with the blanks that follow. -/
def multilineString? (quote : Char) : Nat → List Char → List Char → Option (String × List Char)
  | 0, _, _ => none
  | n + 1, read, cs =>
    match cs with
    | [] => none
    | c :: rest =>
      if c = quote then
        let run := quoteRun quote 5 cs
        if 3 ≤ run then
          some (String.ofList (List.replicate (run - 3) quote ++ read).reverse, cs.drop run)
        else multilineString? quote n (c :: read) rest
      else if c = '\\' ∧ quote = '"' then
        match lineBreak? (skipSpace rest) with
        | some rest => multilineString? quote n read (skipLines id rest.length rest)
        | none => do
          let (c, rest) ← escape? rest
          multilineString? quote n (c :: read) rest
      else
        match lineBreak? cs with
        | some rest => multilineString? quote n ('\n' :: read) rest
        | none => if isBarred c then none else multilineString? quote n (c :: read) rest

def dropLineBreak (cs : List Char) : List Char := (lineBreak? cs).getD cs

def string? (cs : List Char) : Option (String × List Char) :=
  match cs with
  | '"' :: '"' :: '"' :: rest => multilineString? '"' (rest.length + 1) [] (dropLineBreak rest)
  | '\'' :: '\'' :: '\'' :: rest => multilineString? '\'' (rest.length + 1) [] (dropLineBreak rest)
  | '"' :: rest => basicString? (rest.length + 1) [] rest
  | '\'' :: rest => literalString? rest
  | _ => none

/-! ## Numbers -/

def digits? (isDigit : Char → Bool) (cs : List Char) : Option (List Char) :=
  let rec go (after : Bool) : List Char → Option (List Char)
    | [] => if after then some [] else none
    | '_' :: rest => if after then go false rest else none
    | c :: rest => if isDigit c then (go true rest).map (c :: ·) else none
  go false cs

def digitsValue (base : Nat) (digits : List Char) : Nat :=
  digits.foldl (fun n c => n * base + (hexDigit? c).getD 0) 0

def decimal? (cs : List Char) : Option (List Char) := do
  let digits ← digits? Char.isDigit cs
  match digits with
  | '0' :: _ :: _ => none
  | _ => some digits

def inRange (n : Int) : Option Value :=
  if Word.isSigned n then some (.integer n) else none

def splitSign (cs : List Char) : Bool × List Char :=
  match cs with
  | '-' :: rest => (true, rest)
  | '+' :: rest => (false, rest)
  | _ => (false, cs)

def integer? (cs : List Char) : Option Value :=
  match cs with
  | '0' :: 'x' :: rest => do
    inRange (digitsValue 16 (← digits? (fun c => (hexDigit? c).isSome) rest))
  | '0' :: 'o' :: rest => do inRange (digitsValue 8 (← digits? (fun c => '0' ≤ c && c ≤ '7') rest))
  | '0' :: 'b' :: rest => do inRange (digitsValue 2 (← digits? (fun c => '0' ≤ c && c ≤ '1') rest))
  | _ => do
    let (negative, rest) := splitSign cs
    let n : Int := digitsValue 10 (← decimal? rest)
    inRange (if negative then -n else n)

def float? (cs : List Char) : Option Value := do
  let (negative, rest) := splitSign cs
  if rest = "inf".toList then
    return .float (.ofFloat (if negative then -1 / 0 else 1 / 0))
  if rest = "nan".toList then return .float (.ofFloat (0 / 0))
  let isMark (c : Char) : Bool := c == 'e' || c == 'E'
  let mantissa := rest.takeWhile (!isMark ·)
  let whole := mantissa.takeWhile (· != '.')
  let wholeDigits ← decimal? whole
  let fraction ← match mantissa.drop whole.length with
    | '.' :: fraction => digits? Char.isDigit fraction
    | _ => some []
  let exponent : Int ← match rest.drop mantissa.length with
    | _ :: exponent => do
      let (down, digits) := splitSign exponent
      let n : Int := digitsValue 10 (← digits? Char.isDigit digits)
      some (if down then -n else n)
    | [] => some 0
  if mantissa.length = whole.length ∧ mantissa.length = rest.length then none
  else
    let x := Double.nearest negative (digitsValue 10 (wholeDigits ++ fraction))
      (exponent - (fraction.length : Int))
    if x.isInfinite && !x.isNegative then none else some (.float x)

def word? (cs : List Char) : Option Value :=
  if cs = "true".toList then some (.boolean true)
  else if cs = "false".toList then some (.boolean false)
  else (integer? cs).or (float? cs)

def isWordChar (c : Char) : Bool :=
  c.isAlphanum || c == '_' || c == '+' || c == '-' || c == '.'

/-! ## Keys -/

def isBareKeyChar (c : Char) : Bool := c.isAlphanum || c == '_' || c == '-'

def keyPart? (cs : List Char) : Option (String × List Char) :=
  match cs with
  | '"' :: rest => basicString? (rest.length + 1) [] rest
  | '\'' :: rest => literalString? rest
  | _ =>
    let bare := cs.takeWhile isBareKeyChar
    if bare.isEmpty then none else some (String.ofList bare, cs.drop bare.length)

/-- How many parts a key may have, and how many containers a value may open inside one another. -/
def depthLimit : Nat := 79

def keyParts? : Nat → List Char → Option (List String × List Char)
  | 0, _ => none
  | n + 1, cs => do
    let (part, rest) ← keyPart? (skipSpace cs)
    match skipSpace rest with
    | '.' :: rest =>
      let (parts, rest) ← keyParts? n rest
      return (part :: parts, rest)
    | rest => return ([part], rest)

def key? (cs : List Char) : Option (List String × List Char) := keyParts? depthLimit cs

/-! ## Tables -/

inductive Origin where
  | header
  | passed
  | dotted
deriving DecidableEq, Repr

/-- What stands under a key while a document is read. An array of tables has its last one first. -/
inductive Entry where
  | value (v : Value)
  | table (origin : Origin) (members : List (String × Entry))
  | tables (rows : List (List (String × Entry)))
deriving Inhabited

abbrev Members := List (String × Entry)

def modify (key : String) (f : Option Entry → Option Entry) : Members → Option Members
  | [] => do return [(key, ← f none)]
  | (k, item) :: rest =>
    if k = key then do return (k, ← f (some item)) :: rest
    else do return (k, item) :: (← modify key f rest)

/-- Whether a dotted key may enter a table: not if it has a header, and to add a member only if it
was made by a dotted key. -/
def Origin.admits (origin : Origin) (last : Bool) : Bool :=
  match origin with
  | .header => false
  | .passed => !last
  | .dotted => true

def descend (dotted : Bool) : List String → (Members → Option Members) → Members → Option Members
  | [], f, members => f members
  | key :: path, f, members =>
    members |> modify key fun item =>
      match item with
      | none => do
        return .table (if dotted then .dotted else .passed) (← descend dotted path f [])
      | some (.table origin inner) =>
        if dotted && !origin.admits path.isEmpty then none
        else do return .table origin (← descend dotted path f inner)
      | some (.tables (row :: rows)) =>
        if dotted && path.isEmpty then none
        else do return .tables ((← descend dotted path f row) :: rows)
      | some _ => none

def assign (path : List String) (v : Value) (members : Members) : Option Members :=
  match path.getLast? with
  | none => none
  | some key =>
    members |> descend true path.dropLast fun inner =>
      inner |> modify key fun item => if item.isSome then none else some (.value v)

def openTable (path : List String) (members : Members) : Option Members :=
  match path.getLast? with
  | none => none
  | some key =>
    members |> descend false path.dropLast fun inner =>
      inner |> modify key fun item =>
        match item with
        | none => some (.table .header [])
        | some (.table .passed inner) => some (.table .header inner)
        | some _ => none

def openRow (path : List String) (members : Members) : Option Members :=
  match path.getLast? with
  | none => none
  | some key =>
    members |> descend false path.dropLast fun inner =>
      inner |> modify key fun item =>
        match item with
        | none => some (.tables [[]])
        | some (.tables rows) => some (.tables ([] :: rows))
        | some _ => none

mutual

def Entry.toValue : Entry → Value
  | .value v => v
  | .table _ members => .table (toMembers members)
  | .tables rows => .array (toRows rows).reverse

def toMembers : Members → List (String × Value)
  | [] => []
  | (key, item) :: rest => (key, item.toValue) :: toMembers rest

def toRows : List Members → List Value
  | [] => []
  | row :: rows => .table (toMembers row) :: toRows rows

end

/-! ## Values and documents -/

def itemsFrom (step : σ → List Char → Option (σ × List Char)) (skip : List Char → List Char)
    (close : Char) (trailing : Bool) : Nat → σ → List Char → Option (σ × List Char)
  | 0, _, _ => none
  | n + 1, s, cs => do
    let (s, rest) ← step s (skip cs)
    match skip rest with
    | [] => none
    | c :: rest =>
      if c = close then some (s, rest)
      else if c = ',' then
        match skip rest with
        | [] => none
        | d :: after =>
          if d = close then (if trailing then some (s, after) else none)
          else itemsFrom step skip close trailing n s (d :: after)
      else none

def items? (step : σ → List Char → Option (σ × List Char)) (skip : List Char → List Char)
    (close : Char) (trailing : Bool) (s : σ) (cs : List Char) : Option (σ × List Char) :=
  match skip cs with
  | [] => none
  | c :: rest =>
    if c = close then some (s, rest)
    else itemsFrom step skip close trailing (rest.length + 1) s (c :: rest)

def value? (depth : Nat) (cs : List Char) : Option (Value × List Char) :=
  match cs with
  | [] => none
  | '"' :: _ | '\'' :: _ => do
    let (s, rest) ← string? cs
    return (.text s, rest)
  | '[' :: rest =>
    match depth with
    | 0 => none
    | depth + 1 => do
      let step (read : List Value) (cs : List Char) : Option (List Value × List Char) := do
        let (v, rest) ← value? depth cs
        return (v :: read, rest)
      let (items, rest) ← items? step (fun cs => skipLines skipComment cs.length cs) ']' true []
        rest
      return (.array items.reverse, rest)
  | '\x7b' :: rest =>
    match depth with
    | 0 => none
    | depth + 1 => do
      let step (read : Members) (cs : List Char) : Option (Members × List Char) := do
        let (path, rest) ← key? cs
        match rest with
        | '=' :: rest =>
          let (v, rest) ← value? depth (skipSpace rest)
          return (← assign path v read, rest)
        | _ => none
      let (members, rest) ← items? step skipSpace '\x7d' false [] rest
      return (.table (toMembers members), rest)
  | _ =>
    match moment? cs with
    | some (m, rest) => some (.moment m, rest)
    | none => do
      let v ← word? (cs.takeWhile isWordChar)
      return (v, cs.dropWhile isWordChar)

structure Document where
  members : Members := []
  header : List String := []

def line? (doc : Document) (cs : List Char) : Option (Document × List Char) :=
  match skipSpace cs with
  | '[' :: '[' :: rest => do
    let (path, rest) ← key? rest
    match rest with
    | ']' :: ']' :: rest =>
      return ({ members := ← openRow path doc.members, header := path }, ← lineEnd? rest)
    | _ => none
  | '[' :: rest => do
    let (path, rest) ← key? rest
    match rest with
    | ']' :: rest =>
      return ({ members := ← openTable path doc.members, header := path }, ← lineEnd? rest)
    | _ => none
  | cs =>
    match lineEnd? cs with
    | some rest => some (doc, rest)
    | none => do
      let (path, rest) ← key? cs
      match rest with
      | '=' :: rest =>
        let (v, rest) ← value? depthLimit (skipSpace rest)
        let members ← descend false doc.header (assign path v) doc.members
        return ({ doc with members }, ← lineEnd? rest)
      | _ => none

def linesFrom : Nat → Document → List Char → Option Document
  | _, doc, [] => some doc
  | 0, _, _ => none
  | n + 1, doc, cs => do
    let (doc, rest) ← line? doc cs
    linesFrom n doc rest

def parse? (text : String) : Option (List (String × Value)) := do
  let cs := match text.toList with
    | '\ufeff' :: rest => rest
    | cs => cs
  let doc ← linesFrom cs.length {} cs
  return toMembers doc.members

end Lineflow.Toml
