/-! # Numerals of a fixed width -/
namespace Lineflow

def padded (width n : Nat) : String :=
  let digits := Nat.toDigits 10 n
  String.ofList (List.replicate (width - digits.length) '0' ++ digits)

end Lineflow
