import Measures.Measure
import Measures.Problem

/-!
# Why a question has no answer

Each constructor of `Fault` is one reason, with what the message says about it. The first five can
befall a question put to any catalog. `zeroScale` needs a catalog with a measure of size zero, and
`missingWord` cannot befall a question of the right shape: it is the reason why routing fails on a
list of words that is too short.
-/

namespace Measures

/-- A reason why a question has no answer. -/
inductive Fault where
  /-- The line does not have the shape of a question, or its amount is no number. -/
  | malformed
  /-- One of the two words, or both, name no measure. -/
  | unknownMeasure (source target : Measure)
  /-- The amount is below zero and the category does not allow that. -/
  | negativeAmount (category : Category)
  /-- The two measures are of different categories. -/
  | categoryMismatch (source target : Measure)
  /-- The two measures are not linear and no formula joins them. -/
  | noFormula (source target : Measure)
  /-- The target has size zero, so that the amount cannot be divided by it. -/
  | zeroScale
  /-- There are too few words to name two measures. -/
  | missingWord
deriving DecidableEq

/-- The sentence that one name cannot be converted into another. -/
def impossible (source target : String) : String :=
  "Conversion from " ++ source ++ " to " ++ target ++ " is impossible"

namespace Fault

/-- A fault as it is reported. -/
def problem : Fault → Problem
  | malformed => { kind := .malformed, message := "Parse Error" }
  | unknownMeasure source target =>
    { kind := .unknownMeasure
      message := impossible source.displayName target.displayName
      hint := some "Run 'unit-converter units' to list the supported units." }
  | negativeAmount category =>
    { kind := .negativeAmount, message := category.label ++ " shouldn't be negative" }
  | categoryMismatch source target =>
    { kind := .categoryMismatch, message := impossible source.displayName target.displayName }
  | noFormula source target =>
    { kind := .noFormula, message := impossible source.plural target.plural }
  | zeroScale => { kind := .zeroScale, message := "float division by zero" }
  | missingWord => { kind := .missingWord, message := "list index out of range" }

/-- The message of a fault. -/
def message (f : Fault) : String := f.problem.message

end Fault

end Measures
