/-!
# Temperature formulas

Temperatures have no common base. Each of the six ordered pairs of different scales has a formula of
its own, written over any type with decimal literals and the four operations, so that the same
formula runs on doubles and can be reasoned about on exact numbers. On doubles the order of the
operations matters and is the one written here.
-/

namespace Measures

/-- A directed pair of temperature scales. -/
inductive Formula where
  | celsiusToFahrenheit
  | fahrenheitToCelsius
  | celsiusToKelvin
  | kelvinToCelsius
  | fahrenheitToKelvin
  | kelvinToFahrenheit
deriving DecidableEq

namespace Formula

/-- The value of a formula. -/
def apply {α : Type} [OfScientific α] [Add α] [Sub α] [Mul α] [Div α] : Formula → α → α
  | celsiusToFahrenheit, x => x * 9.0 / 5.0 + 32.0
  | fahrenheitToCelsius, x => (x - 32.0) * 5.0 / 9.0
  | celsiusToKelvin, x => x + 273.15
  | kelvinToCelsius, x => x - 273.15
  | fahrenheitToKelvin, x => (x + 459.67) * 5.0 / 9.0
  | kelvinToFahrenheit, x => x * 9.0 / 5.0 - 459.67

/-- The formulas by the keys of the measures they join. -/
def table : List ((String × String) × Formula) :=
  [(("celsius", "fahrenheit"), celsiusToFahrenheit),
   (("fahrenheit", "celsius"), fahrenheitToCelsius),
   (("celsius", "kelvin"), celsiusToKelvin),
   (("kelvin", "celsius"), kelvinToCelsius),
   (("fahrenheit", "kelvin"), fahrenheitToKelvin),
   (("kelvin", "fahrenheit"), kelvinToFahrenheit)]

/-- The formula that leads from one key to another. -/
def between? (source target : String) : Option Formula := table.lookup (source, target)

end Formula

end Measures
