/-! # UTF-8

Reading bytes as text. Bytes that are ill-formed anywhere are no text at all.
-/
namespace Lineflow.Text

def isContinuation (b : UInt8) : Bool := 0x80 ≤ b && b ≤ 0xbf

/-- What the first byte of a character admits as the second, and how many bytes follow it. -/
def leadByte (b : UInt8) : Option (UInt8 × UInt8 × Nat) :=
  if 0xc2 ≤ b && b ≤ 0xdf then some (0x80, 0xbf, 1)
  else if b == 0xe0 then some (0xa0, 0xbf, 2)
  else if b == 0xed then some (0x80, 0x9f, 2)
  else if 0xe1 ≤ b && b ≤ 0xef then some (0x80, 0xbf, 2)
  else if b == 0xf0 then some (0x90, 0xbf, 3)
  else if 0xf1 ≤ b && b ≤ 0xf3 then some (0x80, 0xbf, 3)
  else if b == 0xf4 then some (0x80, 0x8f, 3)
  else none

def append6 (n : Nat) (b : UInt8) : Nat := n * 64 + b.toNat % 64

def nextChar? (lead : UInt8) (rest : List UInt8) : Option (Char × List UInt8) :=
  if lead < 0x80 then some (Char.ofNat lead.toNat, rest)
  else do
    let (low, high, count) ← leadByte lead
    match rest.take count with
    | [] => none
    | second :: others =>
      if others.length + 1 = count && low ≤ second && second ≤ high &&
          others.all isContinuation then
        let n := (second :: others).foldl append6 (lead.toNat % Nat.pow 2 (6 - count))
        some (Char.ofNat n, rest.drop count)
      else none

def decodeFrom? : Nat → List UInt8 → Option (List Char)
  | _, [] => some []
  | 0, _ => none
  | n + 1, b :: rest => do
    let (c, rest) ← nextChar? b rest
    return c :: (← decodeFrom? n rest)

def ofUtf8? (bytes : List UInt8) : Option String :=
  (decodeFrom? bytes.length bytes).map String.ofList

end Lineflow.Text
