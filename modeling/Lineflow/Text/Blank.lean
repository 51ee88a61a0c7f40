/-! # Blank space, terms and lines

Blank characters are those of the Unicode property `White_Space`. A term is a maximal run of
characters that are not blank, and a text splits into lines at line feeds.
-/
namespace Lineflow

/-- The Unicode property `White_Space`. -/
def isBlank (c : Char) : Bool :=
  (0x09 ≤ c.toNat && c.toNat ≤ 0x0d) || c.toNat == 0x20 || c.toNat == 0x85 || c.toNat == 0xa0 ||
  c.toNat == 0x1680 || (0x2000 ≤ c.toNat && c.toNat ≤ 0x200a) || c.toNat == 0x2028 ||
  c.toNat == 0x2029 || c.toNat == 0x202f || c.toNat == 0x205f || c.toNat == 0x3000

namespace Text

def trim (cs : List Char) : List Char :=
  ((cs.dropWhile isBlank).reverse.dropWhile isBlank).reverse

/-- Cuts a text at every separator; there is one more piece than there are separators. -/
def cut (isSeparator : Char → Bool) : List Char → List (List Char)
  | [] => [[]]
  | c :: cs =>
    if isSeparator c then [] :: cut isSeparator cs
    else
      match cut isSeparator cs with
      | [] => [[c]]
      | piece :: pieces => (c :: piece) :: pieces

def terms (cs : List Char) : List (List Char) :=
  (cut isBlank cs).filter (!·.isEmpty)

def dropReturn (cs : List Char) : List Char :=
  if cs.getLast? = some '\r' then cs.dropLast else cs

/-- Each line ends at a line feed, a carriage return before it belongs to the line end, and what
follows the last line feed is a line only if it is not empty. -/
def lines (cs : List Char) : List (List Char) :=
  let pieces := cut (· == '\n') cs
  let final := pieces.getLast?.getD []
  pieces.dropLast.map dropReturn ++ if final.isEmpty then [] else [final]

end Text

end Lineflow
