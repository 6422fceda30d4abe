import Measures.Transcript

/-!
# The texts of the command line

What the command line says about itself: its usage, its help and its version.
-/

namespace Measures.Command

/-- The version of the program. -/
def version : String := "1.0.0"

/-- The usage in one line. -/
def usage : String := "usage: unit-converter [-h] [-V] [-v] [query ...]"

/-- The answer to a request for help. -/
def helpText : String := unlines
  [usage,
   "",
   "Convert length, weight and temperature units.",
   "",
   "positional arguments:",
   "  query          Query such as '10 km to mi', or 'units' to list units. Omit",
   "                 to start the interactive prompt.",
   "",
   "options:",
   "  -h, --help     show this help message and exit",
   "  -V, --version  show program's version number and exit",
   "  -v, --verbose  Log parsing and conversion steps to stderr."]

/-- The answer to a request for the version. -/
def versionText : String := unlines ["unit-converter " ++ version]

/-- The complaint about arguments that cannot be understood. -/
def complaintText (message : String) : String :=
  unlines [usage, "unit-converter: error: " ++ message]

end Measures.Command
