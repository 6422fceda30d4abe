import Measures.Request
import Measures.Text.Quoted

/-!
# Notes on the way to an answer

Each step between a line and its answer can leave a note. A note belongs to a topic, under which it
is filed, and has a message. The notes of a line are a function of the catalog and the line, as the
answer is: taking them changes nothing.
-/

namespace Measures

open Text (quoted)

/-- A step worth noting. -/
inductive Note where
  /-- The line does not have the shape of a question. -/
  | rejected (line : String)
  /-- The line has been read as a question. -/
  | parsed (line : String) (q : Query)
  /-- A word names no measure. -/
  | unmatched (word : String)
  /-- The words of a question have been looked up. -/
  | resolved (q : Query) (r : Request)
  /-- A request has been converted. -/
  | converted (r : Request) (value : Float)
  /-- The question in the line has no answer. -/
  | failed (line : String) (kind : Kind)
deriving DecidableEq

namespace Note

/-- The topic a note is filed under. -/
def topic : Note → String
  | rejected _ | parsed _ _ => "query_parser"
  | unmatched _ => "registry"
  | resolved _ _ => "resolver"
  | converted _ _ => "conversion"
  | failed _ _ => "conversion_service"

/-- The text of a note. -/
def message : Note → String
  | rejected line => "Rejected malformed query " ++ quoted line
  | parsed line q =>
    "Parsed " ++ quoted line ++ " as amount=" ++ writeNumber q.amount ++ " source="
      ++ quoted q.source ++ " target=" ++ quoted q.target
  | unmatched word => "No unit matches " ++ quoted word
  | resolved q r =>
    "Resolved " ++ quoted q.source ++ " -> " ++ quoted r.source.key ++ " and "
      ++ quoted q.target ++ " -> " ++ quoted r.target.key
  | converted r value =>
    "Converted " ++ writeNumber r.amount ++ " " ++ r.source.key ++ " -> " ++ writeNumber value
      ++ " " ++ r.target.key
  | failed line kind => "Query " ++ quoted line ++ " failed: " ++ kind.name

/-- The note as one line of text. -/
def line (n : Note) : String := "DEBUG unit_converter.core." ++ n.topic ++ ": " ++ n.message

end Note

namespace Catalog

/-- The note that a word is looked up in vain. -/
def lookupNotes (c : Catalog) (word : String) : List Note :=
  if (c.lookup word).isKnown then [] else [.unmatched word]

/-- The notes on the way to the answer of a question. -/
def queryNotes (c : Catalog) (q : Query) : List Note :=
  c.lookupNotes q.source ++ c.lookupNotes q.target ++ .resolved q (c.requestOf q) ::
    match (c.resolve q).bind Request.convert with
    | .ok a => [.converted (c.requestOf q) a.value]
    | .error _ => []

/-- The notes on the way to the answer of a line. A line of the right shape whose amount is no
    number leaves none. -/
def answerNotes (c : Catalog) (line : String) : List Note :=
  match Query.ofLine line with
  | .ok q => .parsed line q :: c.queryNotes q
  | .error _ => if Query.isWellFormed (Text.words line) then [] else [.rejected line]

/-- The notes on the way to the reply to a line. -/
def replyNotes (c : Catalog) (line : String) : List Note :=
  c.answerNotes line ++
    match c.answer line with
    | .ok _ => []
    | .error f => if f.problem.kind.isQuery then [.failed line f.problem.kind] else []

end Catalog

end Measures
