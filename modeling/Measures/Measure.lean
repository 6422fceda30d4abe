/-!
# Measures

A measure is a unit one can convert from or to, such as the kilometer: a key that identifies it, the
spellings under which it may be typed, a category, and, where conversion is by scaling, its size in
the base unit of the category (the meter, the gram).

The spellings run from the abbreviation to the full plural. The first is the symbol, the last the
plural and the one before the last the singular. A measure without spellings is not known; the
measure `Measure.unknown` stands for a word that names none.
-/

namespace Measures

/-- What a measure measures. Only measures of one category convert into each other. -/
inductive Category where
  | length
  | weight
  | temperature
  | unknown
deriving DecidableEq

/-- The name of a category in sentences. That of weight ends in a space, which the sentences keep. -/
def Category.label : Category → String
  | .length => "Length"
  | .weight => "Weight "
  | .temperature => "Temperature"
  | .unknown => ""

/-- Whether measures of the category convert by scaling through a base unit. -/
def Category.isLinear : Category → Bool
  | .length | .weight => true
  | .temperature | .unknown => false

/-- A unit of measure. The scale is its size in the base unit of its category; where conversion is
    not by scaling, it plays no part. -/
structure Measure where
  key : String
  aliases : List String
  category : Category
  scale : Float := 0.0
deriving DecidableEq

namespace Measure

/-- The measure that a word naming none stands for. -/
def unknown : Measure := { key := "", aliases := [], category := .unknown }

/-- A measure is known by its spellings. -/
def isKnown (m : Measure) : Bool := !m.aliases.isEmpty

/-- The first spelling. -/
def symbol (m : Measure) : String := m.aliases.head?.getD ""

/-- The last spelling but one; the symbol if there is only one. -/
def singular (m : Measure) : String := m.aliases.dropLast.getLast?.getD m.symbol

/-- The last spelling. -/
def plural (m : Measure) : String := m.aliases.getLast?.getD ""

/-- The name that goes with a number: the singular for exactly one, else the plural. -/
def labelFor (m : Measure) (value : Float) : String :=
  if value == 1.0 then m.singular else m.plural

/-- The plural, or a placeholder for a measure that is not known. -/
def displayName (m : Measure) : String := if m.isKnown then m.plural else "???"

theorem isKnown_iff (m : Measure) : m.isKnown = true ↔ m.aliases ≠ [] := by
  simp [isKnown]

@[simp] theorem isKnown_unknown : unknown.isKnown = false := rfl

end Measure

end Measures
