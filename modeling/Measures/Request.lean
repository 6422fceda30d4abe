import Measures.Answer
import Measures.Catalog
import Measures.Query

/-!
# From a question to its answer

A question is admitted as a request once three checks have passed, in this order: both words name a
measure; the amount is not below zero, unless it is a temperature; both measures are of one
category. The first check that fails gives the reason. A request is then converted, and a catalog
answers a line by reading, admitting and converting it.
-/

namespace Measures

/-- A question whose words have been looked up. -/
structure Request where
  amount : Float
  source : Measure
  target : Measure
deriving DecidableEq

/-! ## 1. The checks -/

/-- Both measures must be known. -/
def checkKnown (source target : Measure) : Except Fault Unit :=
  if source.isKnown && target.isKnown then .ok () else .error (.unknownMeasure source target)

/-- Only a temperature may be below zero. -/
def checkAmount (amount : Float) (source : Measure) : Except Fault Unit :=
  if amount < 0.0 ∧ source.category ≠ .temperature then .error (.negativeAmount source.category)
  else .ok ()

/-- Both measures must be of one category. -/
def checkCategory (source target : Measure) : Except Fault Unit :=
  if source.category = target.category then .ok () else .error (.categoryMismatch source target)

/-- A request that passes all checks. -/
def Request.checked (r : Request) : Except Fault Request := do
  checkKnown r.source r.target
  checkAmount r.amount r.source
  checkCategory r.source r.target
  return r

/-- The answer to a request. -/
def Request.convert (r : Request) : Except Fault Answer :=
  Measures.convert r.amount r.source r.target

/-! ## 2. Answers of a catalog -/

namespace Catalog

/-- The request that a question makes of a catalog, before any check. -/
def requestOf (c : Catalog) (q : Query) : Request := ⟨q.amount, c.lookup q.source, c.lookup q.target⟩

/-- Looks up the words of a question and checks the request. -/
def resolve (c : Catalog) (q : Query) : Except Fault Request := (c.requestOf q).checked

/-- The answer to a line. -/
def answer (c : Catalog) (line : String) : Except Fault Answer := do
  let q ← Query.ofLine line
  let r ← c.resolve q
  r.convert

/-- The sentence that answers a line, or the message why the question has no answer. A fault of the
    catalog itself is not turned into a message. -/
def reply (c : Catalog) (line : String) : Except Fault String :=
  match c.answer line with
  | .ok a => .ok a.describe
  | .error f => if f.problem.kind.isQuery then .ok f.message else .error f

end Catalog

end Measures
