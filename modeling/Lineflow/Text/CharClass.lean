/-! # Classes of characters

A class is a list of ranges of code points. The classes of this library are properties of the
Unicode standard, version 17.
-/
namespace Lineflow.Text

structure CharClass where
  ranges : Array (Nat × Nat)

def CharClass.holds (cls : CharClass) (c : Char) : Bool :=
  cls.ranges.any fun (low, high) => low ≤ c.toNat && c.toNat ≤ high

end Lineflow.Text
