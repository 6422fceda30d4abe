import Measures.Answer
import Measures.Catalog
import Measures.Text.Blank

/-!
# The listing of a catalog

Each measure makes one row of four texts: key, category, spellings, scale. The listing is set out in
one of two ways: as plain lines with columns padded to a common width, or as a `Grid`, a description
of a table that leaves its drawing to the reader.
-/

namespace Measures

/-! ## 1. Rows -/

/-- What the listing tells about one measure. -/
structure Row where
  key : String
  category : String
  aliases : String
  scale : String
deriving DecidableEq

namespace Measure

/-- The scale of a measure, or the word `formula` where scaling plays no part. -/
def scaleText (m : Measure) : String :=
  if m.category.isLinear then writeNumber m.scale else "formula"

/-- The row of a measure. -/
def row (m : Measure) : Row :=
  ⟨m.key, Text.trimmed m.category.label, String.intercalate ", " m.aliases, m.scaleText⟩

end Measure

/-- The rows of a catalog, in its order. -/
def Catalog.rows (c : Catalog) : List Row := c.measures.map Measure.row

/-! ## 2. Plain lines -/

/-- The text filled up with spaces on the right. -/
def padRight (width : Nat) (text : String) : String :=
  text ++ String.ofList (List.replicate (width - text.length) ' ')

/-- Four columns. The last is as wide as it happens to be. -/
def columns (first second third last : String) : String :=
  padRight 12 first ++ " " ++ padRight 12 second ++ " " ++ padRight 10 third ++ " " ++ last

/-- The line of a row. The spellings come last, being the longest. -/
def Row.line (r : Row) : String := columns r.key r.category r.scale r.aliases

/-- The head of the listing, a rule under it, a line for each row, and an empty line. -/
def plainListing (rows : List Row) : List String :=
  [columns "Unit" "Category" "Scale" "Aliases", String.ofList (List.replicate 72 '-')]
    ++ rows.map Row.line ++ [""]

/-! ## 3. Grids -/

/-- A column of a grid with what is asked of its drawing. -/
structure Column where
  name : String
  style : Option String := none
  justify : Option String := none
  minWidth : Option Nat := none
  noWrap : Bool := false
deriving DecidableEq

/-- A table to be drawn. -/
structure Grid where
  title : String
  showHeader : Bool
  headerStyle : String
  borderStyle : String
  columns : List Column
  rows : List (List String)
deriving DecidableEq

/-- The grid of a listing. -/
def Grid.ofRows (rows : List Row) : Grid where
  title := "Supported units"
  showHeader := true
  headerStyle := "bold cyan"
  borderStyle := "dim"
  columns :=
    [{ name := "Unit", style := some "bold", minWidth := some 10, noWrap := true },
     { name := "Category", minWidth := some 11, noWrap := true },
     { name := "Scale", justify := some "right", minWidth := some 8, noWrap := true },
     { name := "Aliases" }]
  rows := rows.map fun r => [r.key, r.category, r.scale, r.aliases]

end Measures
