import Measures.Decimal.Numeral
import Measures.Fault
import Measures.Query.Route
import Measures.Query.Shape
import Measures.Text.Blank

/-!
# Questions

A question asks for an amount of one measure in another, as in `10 km to mi`. Reading a line is in
three steps, and the first that fails decides: the line must have the shape of a question, its first
word must be a number, and two words must name measures. Whether they do name any is not looked at
here.
-/

namespace Measures

/-- A question: an amount and the words for its two measures, as typed. -/
structure Query where
  amount : Float
  source : String
  target : String
deriving DecidableEq

namespace Query

/-- Reads an amount. Only ASCII characters occur in one, and no underscore. -/
def amount? (token : String) : Option Float :=
  if token.toList.all fun c => c.toNat < 128 && c ≠ '_' then Decimal.read? token else none

/-- The question that the words of a line ask. -/
def ofWords (tokens : List String) : Except Fault Query :=
  if isWellFormed tokens then
    match tokens.head? with
    | none => .error .missingWord
    | some first =>
      match amount? first with
      | none => .error .malformed
      | some amount =>
        match unitWords tokens with
        | none => .error .missingWord
        | some (source, target) => .ok ⟨amount, source, target⟩
  else .error .malformed

/-- The question that a line asks. -/
def ofLine (line : String) : Except Fault Query := ofWords (Text.words line)

end Query

end Measures
