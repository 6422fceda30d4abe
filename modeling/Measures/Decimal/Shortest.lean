import Measures.Decimal.Numeral
import Measures.Decimal.Layout

/-!
# Writing a double with the fewest digits

Every finite double is a decimal fraction: `m · 2 ^ -k` is `m · 5 ^ k · 10 ^ -k`. So its decimal
expansion ends, and the numbers of `n` digits next to it below and above come from the expansion by
one division. `write` tries them for one digit, two digits, and so on to seventeen, the nearer of
the two first, and takes the first whose text reads back as the very same double.

* The result has as few digits as any text that reads back (a shorter one that lies further away
  than both neighbours lies further away than one that does not read back).
* Of two texts of that length the nearer wins; where both lie equally far, the one with the even
  last digit.
-/

namespace Measures.Decimal

/-! ## 1. The parts of a double -/

/-- The value of the leading bit of the significand, which is not among its fifty-two bits. -/
def leadingBit : Nat := 0x10000000000000

/-- Whether the sign bit is set. -/
def isNegative (x : Float) : Bool := x.toBits.toNat.testBit 63

/-- The eleven bits of the exponent. -/
def exponentField (x : Float) : Nat := x.toBits.toNat / leadingBit % 0x800

/-- The fifty-two bits of the significand. -/
def significandField (x : Float) : Nat := x.toBits.toNat % leadingBit

/-- The significand of a finite double as a whole number. Its leading bit is set unless the exponent
    field is zero. -/
def significand (x : Float) : Nat :=
  if exponentField x = 0 then significandField x else leadingBit + significandField x

/-- The power of two that scales the significand. -/
def binaryExponent (x : Float) : Int := max (exponentField x) 1 - 1075

/-! ## 2. Decimal fractions near a double -/

/-- The decimal fraction `digits · 10 ^ exponent`. -/
structure Scaled where
  digits : Nat
  exponent : Int
deriving DecidableEq

/-- The decimal fraction equal to `m · 2 ^ q`. -/
def Scaled.ofBinary (m : Nat) (q : Int) : Scaled :=
  if 0 ≤ q then ⟨m <<< q.toNat, 0⟩ else ⟨m * Nat.pow 5 (-q).toNat, q⟩

/-- The numbers next to `d`, below and above, that do without its last `surplus` digits, the nearer
    first; of two equally near ones the even one first. -/
def Scaled.neighbours (d : Scaled) (surplus : Nat) : List Scaled :=
  let unit := Nat.pow 10 surplus
  let below := d.digits / unit
  let above := d.digits % unit
  let lower : Scaled := ⟨below, d.exponent + surplus⟩
  let upper : Scaled := ⟨below + 1, d.exponent + surplus⟩
  if 2 * above < unit ∨ (2 * above = unit ∧ below % 2 = 0) then [lower, upper]
  else [upper, lower]

/-- The candidates for the text of `d`, from one digit on. Seventeen digits tell any two doubles
    apart. Where `d` has no more digits than asked for, it is its own neighbour below. -/
def Scaled.candidates (d : Scaled) : List Scaled :=
  let length := (Nat.toDigits 10 d.digits).length
  (List.range 17).flatMap fun n => d.neighbours (length - (n + 1))

/-! ## 3. Writing -/

/-- The sign as it is written. -/
def signText (negative : Bool) : List Char := if negative then ['-'] else []

/-- Whether a text reads back as `x`, the sign of a zero included. -/
def readsBack (cs : List Char) (x : Float) : Bool :=
  match numeral? cs with
  | some n => n.value.toBits == x.toBits
  | none => false

/-- The text of a finite double other than zero: that of the first candidate which reads back. -/
def Format.shortest (f : Format) (x : Float) : List Char :=
  let exact := Scaled.ofBinary (significand x) (binaryExponent x)
  let text := fun d : Scaled => signText (isNegative x) ++ f.text d.digits d.exponent
  text ((exact.candidates.find? fun d => readsBack (text d) x).getD exact)

/-- The text of a double. A zero keeps its sign; what is no number has none. -/
def Format.write (f : Format) (x : Float) : String :=
  String.ofList <|
    if exponentField x = 2047 then
      if significandField x = 0 then signText (isNegative x) ++ ['i', 'n', 'f']
      else ['n', 'a', 'n']
    else if significand x = 0 then signText (isNegative x) ++ ['0', '.', '0']
    else f.shortest x

end Measures.Decimal
