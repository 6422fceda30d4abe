/-!
# How the digits of a number are set out

The digits of a positive number, without trailing zeros, and the place of the decimal point
determine its text. The point is written between the digits, with zeros filled in, as long as the
exponent (that of the first digit) is moderate; beyond, the text is in exponent form. `Format` holds
the three decisions this leaves open.
-/

namespace Measures.Decimal

/-- Which exponents are written with the point in its place, and how many digits an exponent has at
    least where it is written. -/
structure Format where
  leastPositional : Int
  mostPositional : Int
  exponentWidth : Nat
deriving DecidableEq

/-- The list filled up with zeros on the left. -/
def padZeros (width : Nat) (ds : List Char) : List Char :=
  List.replicate (width - ds.length) '0' ++ ds

/-- The point in its place: `point` is the number of digits before it, and negative or zero if
    zeros come first. One digit stands on either side at least. -/
def positional (ds : List Char) (point : Int) : List Char :=
  if point ≤ 0 then '0' :: '.' :: (List.replicate (-point).toNat '0' ++ ds)
  else if ds.length ≤ point.toNat then
    ds ++ List.replicate (point.toNat - ds.length) '0' ++ ['.', '0']
  else ds.take point.toNat ++ '.' :: ds.drop point.toNat

/-- One digit, the others after a point if there are any, and the exponent with its sign. -/
def exponential (width : Nat) (ds : List Char) (exponent : Int) : List Char :=
  ds.take 1 ++ (if ds.length ≤ 1 then [] else '.' :: ds.drop 1)
    ++ 'e' :: (if exponent < 0 then '-' else '+') :: padZeros width (Nat.toDigits 10 exponent.natAbs)

/-- The text of a positive number from its digits and its point. -/
def Format.layout (f : Format) (ds : List Char) (point : Int) : List Char :=
  if f.leastPositional ≤ point - 1 ∧ point - 1 ≤ f.mostPositional then positional ds point
  else exponential f.exponentWidth ds (point - 1)

/-- The digits without the zeros at their end. -/
def significant (ds : List Char) : List Char := (ds.reverse.dropWhile (· = '0')).reverse

/-- The text of `digits · 10 ^ exponent`. -/
def Format.text (f : Format) (digits : Nat) (exponent : Int) : List Char :=
  let ds := Nat.toDigits 10 digits
  f.layout (significant ds) (ds.length + exponent)

end Measures.Decimal
