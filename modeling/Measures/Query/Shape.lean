import Measures.Text.Lowercase
import Measures.Text.Pieces

/-!
# The shape of a question

Whether a line can be a question at all is decided on its words joined by single spaces and
lower-cased. Such a text has the shape of a question if it is

* a number: an optional minus, digits, and possibly one more character, whichever it is, followed by
  digits;
* a space;
* a phrase: words of ASCII letters with single spaces between them, of which the last but one, with
  one word or more before it, or the last but two, again with one word or more before it, holds
  `to` or `in`. That word is the connector.

The character inside the number may be a space, so that `1 5 km to mi` has the shape of a question.
Since a phrase starts with a letter, the number ends in one place at most and one pass decides.
-/

namespace Measures.Query

open Text (pieces lowerChars)

/-! ## 1. Phrases -/

/-- A word of a phrase: one ASCII letter or more. -/
def isWord (w : List Char) : Bool := w ≠ [] && w.all Char.isAlpha

/-- Whether the characters `a`, `b` stand side by side in the word. -/
def hasPair (a b : Char) : List Char → Bool
  | c :: d :: rest => (c = a && d = b) || hasPair a b (d :: rest)
  | _ => false

/-- A word that can connect the two sides of a question. -/
def isConnector (w : List Char) : Bool := hasPair 't' 'o' w || hasPair 'i' 'n' w

/-- Whether one of the two places for a connector is taken by one. The words come in reverse. -/
def connects : List (List Char) → Bool
  | _ :: second :: third :: rest => isConnector second || (isConnector third && rest ≠ [])
  | _ => false

/-- The words of a phrase. -/
def isPhrase (ws : List (List Char)) : Bool := ws.all isWord && connects ws.reverse

/-- A text that is a phrase. -/
def phraseText (cs : List Char) : Bool := isPhrase (pieces (· = ' ') cs)

/-! ## 2. The number and the whole line -/

/-- The text without a minus at its start. -/
def dropMinus : List Char → List Char
  | '-' :: rest => rest
  | cs => cs

/-- Digits, a space and a phrase: what may follow the character inside the number. -/
def digitsThenPhrase (cs : List Char) : Bool :=
  cs.takeWhile Char.isDigit ≠ [] &&
    match cs.dropWhile Char.isDigit with
    | ' ' :: rest => phraseText rest
    | _ => false

/-- What may follow the first digits of the number. -/
def afterDigits : List Char → Bool
  | [] => false
  | c :: rest => (c = ' ' && phraseText rest) || (c ≠ '\n' && digitsThenPhrase rest)

/-- A joined and lower-cased line that has the shape of a question. -/
def hasShape (cs : List Char) : Bool :=
  let number := dropMinus cs
  number.takeWhile Char.isDigit ≠ [] && afterDigits (number.dropWhile Char.isDigit)

/-- Whether the words, joined by single spaces and lower-cased, have the shape of a question. -/
def isWellFormed (tokens : List String) : Bool :=
  hasShape (lowerChars ([' '].intercalate (tokens.map String.toList)))

end Measures.Query
