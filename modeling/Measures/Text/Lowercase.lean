import Measures.Text.Cased
import Measures.Text.CaseMapping

/-!
# Lower-casing

Lower-casing replaces every character by its lower-case form, with two rules of its own:

* the dotted capital I (U+0130) becomes `i` and a combining dot above;
* a capital sigma becomes the final sigma `ς` where it ends a word, and `σ` elsewhere. It ends a
  word if, case-ignorable characters passed over, a cased character stands before it and none
  stands after it.

So the form of a sigma hangs on its neighbours, and lower-casing a joined text and joining
lower-cased texts agree only because the glue, a space, is neither cased nor case-ignorable.
-/

namespace Measures.Text

/-- The lower-case form of a character away from the final sigma. -/
def lowerChar (c : Char) : List Char :=
  if c.toNat = 0x130 then ['i', Char.ofNat 0x307] else [Char.ofNat (lowerCode c.toNat)]

/-- Whether the first character that is not case-ignorable is cased. -/
def startsCased : List Char → Bool
  | [] => false
  | c :: rest => if isCaseIgnorable c then startsCased rest else isCased c

/-- Whether the last character read that is not case-ignorable is cased, after one more. -/
def casedAfter (before : Bool) (c : Char) : Bool :=
  if isCaseIgnorable c then before else isCased c

/-- Lower-cases the rest of a text. `before` tells whether the last character so far that is not
    case-ignorable is cased. -/
def lowerFrom (before : Bool) : List Char → List Char
  | [] => []
  | c :: rest =>
    (if c = 'Σ' then (if before && !startsCased rest then ['ς'] else ['σ']) else lowerChar c)
      ++ lowerFrom (casedAfter before c) rest

/-- The lower-case form of a list of characters. -/
def lowerChars (cs : List Char) : List Char := lowerFrom false cs

/-- The lower-case form of a text. -/
def lower (text : String) : String := String.ofList (lowerChars text.toList)

@[simp] theorem toList_lower (text : String) : (lower text).toList = lowerChars text.toList := by
  simp [lower]

end Measures.Text
