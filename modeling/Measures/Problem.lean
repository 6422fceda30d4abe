/-!
# Problems, as they are reported

Whatever goes wrong is reported as a `Problem`: its kind, a message, and possibly a hint. The kinds
form a small hierarchy. All that the program itself gives as a reason, and what a prompt may raise
on its behalf, is of the kind `general`; of these, the kind `query` holds the reasons why one
question has no answer. The other kinds come from outside, and there is no end of them: apart from
those that a run can meet without a prompt, and a few that have a use of their own, they are known
by their names only.

What stops a program at once, and is not meant to be reported by it, is no problem in this sense.
-/

namespace Measures

/-- The kinds of problem. -/
inductive Kind where
  | general
  | query
  | malformed
  | unknownMeasure
  | negativeAmount
  | categoryMismatch
  | noFormula
  | catalog
  | missingTool
  | zeroScale
  | missingWord
  | interrupt
  | breakdown
  | badValue
  /-- Any other kind that comes from outside, under its name. -/
  | other (name : String)
deriving DecidableEq

namespace Kind

/-- The name of a kind where it is shown. -/
def name : Kind → String
  | general => "UnitConverterError"
  | query => "ConversionError"
  | malformed => "QueryParseError"
  | unknownMeasure => "UnknownUnitError"
  | negativeAmount => "NegativeAmountError"
  | categoryMismatch => "CategoryMismatchError"
  | noFormula => "UnsupportedConversionError"
  | catalog => "RegistryError"
  | missingTool => "MissingDependencyError"
  | zeroScale => "ZeroDivisionError"
  | missingWord => "IndexError"
  | interrupt => "KeyboardInterrupt"
  | breakdown => "RuntimeError"
  | badValue => "ValueError"
  | other name => name

/-- The wider kinds, from the nearest on. -/
def ancestors : Kind → List Kind
  | malformed | unknownMeasure | negativeAmount | categoryMismatch | noFormula => [query, general]
  | query | catalog | missingTool => [general]
  | general | zeroScale | missingWord | interrupt | breakdown | badValue | other _ => []

/-- The kind and the wider kinds. -/
def lineage (k : Kind) : List Kind := k :: k.ancestors

/-- A reason why one question has no answer. -/
def isQuery (k : Kind) : Bool := query ∈ k.lineage

/-- A reason that the program itself gives. -/
def isGeneral (k : Kind) : Bool := general ∈ k.lineage

@[simp] theorem isQuery_other (name : String) : (other name).isQuery = false := by
  simp [isQuery, lineage, ancestors]

end Kind

/-- A problem as it is reported. -/
structure Problem where
  kind : Kind
  message : String
  hint : Option String := none
deriving DecidableEq

end Measures
