import Measures.Text.Runs
import Measures.Text.Pieces

/-!
# White space and words

The words of a line are what stands between runs of white space. White space is the white space of
Unicode together with the four information separators U+001C to U+001F; the zero-width space and
other invisible characters are not among it, and stay inside a word.
-/

namespace Measures.Text

/-- The white-space code points. -/
def blankRuns : List (Nat × Nat) :=
  [(0x9, 0xD), (0x1C, 0x20), (0x85, 0x85), (0xA0, 0xA0), (0x1680, 0x1680), (0x2000, 0x200A),
  (0x2028, 0x2029), (0x202F, 0x202F), (0x205F, 0x205F), (0x3000, 0x3000)]

/-- A white-space character. -/
def isBlank (c : Char) : Bool := inRuns blankRuns c.toNat

/-- The white space of the ASCII range is white space here. -/
theorem isBlank_of_isWhitespace {c : Char} (h : c.isWhitespace = true) : isBlank c = true := by
  simp only [Char.isWhitespace, Bool.or_eq_true, decide_eq_true_eq] at h
  rcases h with ((rfl | rfl) | rfl) | rfl <;> decide

/-- The maximal runs of other characters than white space. -/
def wordsOf (cs : List Char) : List (List Char) := (pieces isBlank cs).filter (· ≠ [])

/-- The words of a line, from left to right. -/
def words (line : String) : List String := (wordsOf line.toList).map String.ofList

/-- **A word is not empty and holds no white space.** -/
theorem mem_wordsOf {cs w : List Char} (h : w ∈ wordsOf cs) :
    w ≠ [] ∧ ∀ c ∈ w, isBlank c = false := by
  unfold wordsOf at h
  rw [List.mem_filter] at h
  exact ⟨by simpa using h.2, not_sep_of_mem_pieces isBlank cs w h.1⟩

/-- The text without the white space at its two ends. -/
def trimmed (text : String) : String :=
  String.ofList ((text.toList.dropWhile isBlank).reverse.dropWhile isBlank).reverse

end Measures.Text
