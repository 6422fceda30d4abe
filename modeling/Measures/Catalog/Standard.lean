import Measures.Catalog

/-!
# The standard catalog

Eight lengths with the meter as base, five weights with the gram as base, and three temperatures,
which have no base and convert by formulas.
-/

namespace Measures

/-- A length of the given size in meters. -/
def Measure.length (key : String) (aliases : List String) (scale : Float) : Measure :=
  ⟨key, aliases, .length, scale⟩

/-- A weight of the given size in grams. -/
def Measure.weight (key : String) (aliases : List String) (scale : Float) : Measure :=
  ⟨key, aliases, .weight, scale⟩

/-- A temperature. -/
def Measure.temperature (key : String) (aliases : List String) : Measure :=
  ⟨key, aliases, .temperature, 0.0⟩

/-- The measures that the standard catalog offers. -/
def standardMeasures : List Measure :=
  [.length "meter" ["m", "meter", "meters"] 1.0,
   .length "kilometer" ["km", "kilometer", "kilometers"] 1000.0,
   .length "centimeter" ["cm", "centimeter", "centimeters"] 0.01,
   .length "millimeter" ["mm", "millimeter", "millimeters"] 0.001,
   .length "mile" ["mi", "mile", "miles"] 1609.35,
   .length "yard" ["yd", "yard", "yards"] 0.9144,
   .length "foot" ["ft", "foot", "feet"] 0.3048,
   .length "inch" ["in", "inch", "inches"] 0.0254,
   .weight "gram" ["g", "gram", "grams"] 1.0,
   .weight "kilogram" ["kg", "kilogram", "kilograms"] 1000.0,
   .weight "milligram" ["mg", "milligram", "milligrams"] 0.001,
   .weight "pound" ["lb", "pound", "pounds"] 453.592,
   .weight "ounce" ["oz", "ounce", "ounces"] 28.3495,
   .temperature "celsius" ["c", "dc", "celsius", "degree Celsius", "degrees Celsius"],
   .temperature "fahrenheit"
     ["f", "df", "fahrenheit", "degree Fahrenheit", "degrees Fahrenheit"],
   .temperature "kelvin" ["k", "kelvin", "kelvins", "degree Kelvin", "degrees Kelvin"]]

/-- The catalog of the standard measures. -/
def Catalog.standard : Catalog where
  measures := standardMeasures
  named := by decide
  distinct := by decide +kernel

end Measures
