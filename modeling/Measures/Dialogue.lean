import Measures.Transcript

/-!
# The dialogue

The dialogue prompts for a line, shows the reply and an empty line, and prompts again. It ends when
the first word of a line is exactly `exit`, when a prompt is cancelled, and when a problem comes up
in a prompt or in answering, which then is the outcome of the dialogue.

The answers of the user are given as a script. A script that runs out counts as a prompt cancelled.
-/

namespace Measures

/-- What comes of one prompt. -/
inductive Response where
  | line (text : String)
  | cancelled
  | raised (p : Problem)
deriving DecidableEq

/-- What comes of a prompt that reads up to the end of a line: nothing read means that the input has
    ended. -/
def Response.ofInput (text : String) : Response :=
  if text = "" then .cancelled
  else if text.toList.getLast? = some '\n' then .line (String.ofList text.toList.dropLast)
  else .line text

/-- What a dialogue shows after each of its prompts, and the problem that ended it, if one did. -/
structure Dialogue where
  turns : List (List Item)
  problem : Option Problem
deriving DecidableEq

namespace Dialogue

/-- The text of every prompt. -/
def prompt : String := "Enter what you want to convert (or exit):"

/-- Whether the first word of a line is exactly `exit`. -/
def isExit (line : String) : Bool := (Text.words line).head? = some "exit"

/-- A dialogue that ends without showing anything more. -/
def ending (problem : Option Problem) : Dialogue := ⟨[[]], problem⟩

/-- The dialogue with one more turn before the others. -/
def before (turn : List Item) (d : Dialogue) : Dialogue := ⟨turn :: d.turns, d.problem⟩

/-- The number of prompts. -/
def prompts (d : Dialogue) : Nat := d.turns.length

/-- All that the dialogue shows. -/
def items (d : Dialogue) : List Item := d.turns.flatten

end Dialogue

namespace Catalog

/-- What is shown in reply to a line. -/
def replyItems (c : Catalog) (line : String) (reply : String) : List Item :=
  (c.replyNotes line).map Item.note ++ [.sentence reply, .emptyLine]

/-- The dialogue with a catalog on a console, following a script. -/
def dialogue (c : Catalog) (script : List Response) (k : Console := {}) : Dialogue :=
  match script with
  | [] | .cancelled :: _ => .ending none
  | .raised p :: _ => .ending (some p)
  | .line text :: rest =>
    if Dialogue.isExit text then .ending none
    else match c.reply text with
      | .ok reply => (c.dialogue rest k).before (k.put (c.replyItems text reply))
      | .error f => ⟨[k.put ((c.replyNotes text).map Item.note)], some f.problem⟩

end Catalog

end Measures
