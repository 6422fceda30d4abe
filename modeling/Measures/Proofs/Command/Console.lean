import Measures.Command

/-!
# The same run on every console

A run never looks at the console. What it shows on one is what it shows on the console that has a
printer and takes everything, put on the other item by item: the prompts and the ending are the same,
and so is the text, but for the notes.

* `Console.plainText_put`: the text of items that are put on a console;
* `Catalog.dialogue_on`, by induction on the script, and `serve_on`: runs on a console.
-/

namespace Measures

/-! ## 1. What is put on a console -/

theorem plainText_map_spelled (stream : Stream) (items : List Item) :
    plainText stream (items.map Item.spelled) = plainText stream items := by
  rw [plainText, plainText, List.map_map]
  rfl

namespace Console

/-- **The text is the same with a printer and without one**: it is that of the items wanted. -/
theorem plainText_put (k : Console) (stream : Stream) (items : List Item) :
    plainText stream (k.put items) = plainText stream (k.wanted items) := by
  unfold put
  split
  · rfl
  · exact plainText_map_spelled stream _

theorem put_flatten (k : Console) (turns : List (List Item)) :
    k.put turns.flatten = (turns.map k.put).flatten := by
  induction turns with
  | nil => exact k.put_nil
  | cons turn rest ih => rw [List.flatten_cons, put_append, ih, List.map_cons, List.flatten_cons]

end Console

/-! ## 2. Runs on a console -/

/-- **A dialogue on a console** is the dialogue, every turn of it put on the console. -/
theorem Catalog.dialogue_on (c : Catalog) (k : Console) : ∀ script : List Response,
    c.dialogue script k = ⟨(c.dialogue script).turns.map k.put, (c.dialogue script).problem⟩
  | [] | .cancelled :: _ | .raised _ :: _ => by
    simp [dialogue, Dialogue.ending]
  | .line text :: rest => by
    have ih := c.dialogue_on k rest
    rw [dialogue, dialogue]
    split
    · simp [Dialogue.ending]
    · cases c.reply text with
      | ok reply =>
        simp only [ih]
        rfl
      | error f => rfl

namespace Command

variable {c : Catalog} {script : Option (List Response)}

/-- What an outcome is on a console. -/
def Outcome.printedOn (o : Outcome) (k : Console) : Outcome :=
  { o with items := k.put o.items, styled := k.styled }

theorem converse_on (c : Catalog) (k : Console) : ∀ script : Option (List Response),
    converse c script k = (converse c script).printedOn k
  | none => by rw [converse, converse, Outcome.printedOn, Console.put_nil]
  | some script => by
    have hd := c.dialogue_on k script
    simp only [converse, Outcome.printedOn, hd, Dialogue.items, Dialogue.prompts,
      Console.put_flatten, List.length_map]

theorem answerLine_on (c : Catalog) (line : String) (k : Console) :
    answerLine c line k = (answerLine c line).printedOn k := by
  unfold answerLine
  cases c.answer line with
  | ok a => exact congrArg (Outcome.mk · 0 (.exit success) k.styled) (k.put_append _ _).symm
  | error f => rfl

/-- **A run on words does not look at the console.** -/
theorem serve_on (c : Catalog) (script : Option (List Response)) (words : List String)
    (k : Console) : serve c script words k = (serve c script words).printedOn k := by
  unfold serve
  split
  · exact converse_on c k script
  · split
    · rfl
    · exact answerLine_on c _ k

end Command

end Measures
