/-!
# Reading decimal numerals

A numeral is an optional sign followed by a decimal fraction or by a name. The fraction has digits,
a point with or without digits on either side of it (on one side at least), and an optional
exponent; the names are `inf`, `infinity` and `nan` in any letter case. Spaces and the control
characters U+0009 to U+000D may stand around the numeral.

* `Numeral` is what a numeral denotes, before any rounding;
* `Numeral.value` is the double nearest to it, a half going to the even neighbour;
* `numeral?` and `read?` are the reader.
-/

namespace Measures.Decimal

/-! ## 1. What a numeral denotes -/

/-- A signed decimal fraction `digits · 10 ^ exponent`, a signed infinity, or no number at all. -/
inductive Numeral where
  | finite (negative : Bool) (digits : Nat) (exponent : Int)
  | infinite (negative : Bool)
  | undefined
deriving DecidableEq

/-- The double nearest to `digits · 10 ^ exponent`; infinite if that lies above the doubles. -/
def magnitude (digits : Nat) (exponent : Int) : Float :=
  if 0 ≤ exponent then Float.ofScientific digits false exponent.toNat
  else Float.ofScientific digits true (-exponent).toNat

/-- The number with the sign given. The sign of a zero counts. -/
def signed (negative : Bool) (x : Float) : Float := if negative then -x else x

/-- The double that a numeral stands for. -/
def Numeral.value : Numeral → Float
  | .finite negative digits exponent => signed negative (magnitude digits exponent)
  | .infinite negative => signed negative (1.0 / 0.0)
  | .undefined => 0.0 / 0.0

/-! ## 2. Reading -/

/-- Splits off an optional sign and tells whether it is a minus. -/
def splitSign : List Char → Bool × List Char
  | '-' :: rest => (true, rest)
  | '+' :: rest => (false, rest)
  | cs => (false, cs)

/-- The number that a list of ASCII digits writes. -/
def natOf (cs : List Char) : Nat := Nat.ofDigitChars 10 cs 0

/-- A signed whole number, with one digit at least and nothing after it. -/
def integer? (cs : List Char) : Option Int :=
  match splitSign cs with
  | (negative, ds) =>
    if ds ≠ [] ∧ ds.all Char.isDigit then
      some (if negative then -(natOf ds : Int) else natOf ds)
    else none

/-- The exponent that ends a fraction: zero if nothing follows the digits. -/
def exponent? : List Char → Option Int
  | [] => some 0
  | c :: rest => if c = 'e' ∨ c = 'E' then integer? rest else none

/-- An unsigned decimal fraction, as its digits and the power of ten that scales them. -/
def fraction? (cs : List Char) : Option (Nat × Int) :=
  let whole := cs.takeWhile Char.isDigit
  match cs.dropWhile Char.isDigit with
  | '.' :: rest =>
    let places := rest.takeWhile Char.isDigit
    if whole = [] ∧ places = [] then none
    else (exponent? (rest.dropWhile Char.isDigit)).map fun e =>
      (natOf (whole ++ places), e - places.length)
  | rest =>
    if whole = [] then none else (exponent? rest).map fun e => (natOf whole, e)

/-- The spellings of infinity, in small letters. -/
def infinityNames : List (List Char) := [['i', 'n', 'f'], ['i', 'n', 'f', 'i', 'n', 'i', 't', 'y']]

/-- The spelling of what is no number, in small letters. -/
def undefinedName : List Char := ['n', 'a', 'n']

/-- Reads a numeral that has nothing around it. -/
def numeral? (cs : List Char) : Option Numeral :=
  match splitSign cs with
  | (negative, rest) =>
    let name := rest.map Char.toLower
    if name ∈ infinityNames then some (.infinite negative)
    else if name = undefinedName then some .undefined
    else (fraction? rest).map fun f => .finite negative f.1 f.2

/-- The characters that may stand around a numeral. -/
def isMargin (c : Char) : Bool := c = ' ' || (9 ≤ c.toNat && c.toNat ≤ 13)

/-- The list without the margins at its two ends. -/
def withoutMargins (cs : List Char) : List Char :=
  ((cs.dropWhile isMargin).reverse.dropWhile isMargin).reverse

/-- The double that a text writes; nothing if the text is no numeral. -/
def read? (text : String) : Option Float :=
  (numeral? (withoutMargins text.toList)).map Numeral.value

end Measures.Decimal
