import Measures.Decimal.Shortest
import Measures.Rule

/-!
# Answers

An answer holds the amount asked about, its value in the target measure, and the names that go with
the two numbers. It is read as one sentence, such as `10.0 kilometers is 6.213688756330196 miles`.
-/

namespace Measures

/-- Numbers have the point in its place while their first digit lies between the fourth place after
    the point and the sixteenth before it; beyond, an exponent has two digits at least. -/
def numberFormat : Decimal.Format := ⟨-4, 15, 2⟩

/-- A number as it stands in sentences, listings and notes. -/
def writeNumber (x : Float) : String := numberFormat.write x

/-- The answer to a question. -/
structure Answer where
  amount : Float
  value : Float
  sourceLabel : String
  targetLabel : String
deriving DecidableEq

namespace Answer

/-- The sentence that gives the answer. -/
def describe (a : Answer) : String :=
  writeNumber a.amount ++ " " ++ a.sourceLabel ++ " is " ++ writeNumber a.value ++ " "
    ++ a.targetLabel

/-- The answer that a value of an amount makes. -/
def ofValue (amount : Float) (source target : Measure) (value : Float) : Answer :=
  ⟨amount, value, source.labelFor amount, target.labelFor value⟩

end Answer

/-- Converts an amount of one measure into another. -/
def convert (amount : Float) (source target : Measure) : Except Fault Answer := do
  let rule ← Rule.between? source target
  return .ofValue amount source target (← rule.value? amount source target)

end Measures
