/-!
# Which words name the measures

Each side of a question is one word or two, and of two the second names the measure. The number of
words tells the sides apart where it can: four words have one word on each side, six have two. In
any other case the side before the connector has two words if the last word but one is exactly `to`
or `in`, and one word otherwise. The last word always names the target.
-/

namespace Measures.Query

/-- The connectors that are taken at their word. -/
def connectors : List String := ["to", "in"]

/-- The words that name the source and the target; none if there are too few words for that. -/
def unitWords (tokens : List String) : Option (String × String) :=
  if tokens.length = 4 then do
    return (← tokens[1]?, ← tokens[3]?)
  else if tokens.length = 6 then do
    return (← tokens[2]?, ← tokens[5]?)
  else
    match tokens.reverse with
    | last :: connector :: _ => do
      let source ← if connector ∈ connectors then tokens[2]? else tokens[1]?
      return (source, last)
    | _ => none

end Measures.Query
