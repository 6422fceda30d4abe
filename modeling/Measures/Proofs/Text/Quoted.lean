import Measures.Proofs.Text.Ascii
import Measures.Text.Quoted

/-!
# A quoted text can be printed

Quoting hides what cannot be shown: whatever the text, every character of its quoted form is
printable. So a quoted text stays on its line, and does so without looking at the text.

* `IsPrintable`: texts that can be shown as they are;
* `isPrintable_quoted`: quoted texts are among them.
-/

namespace Measures.Text

variable {c d quote : Char}

/-! ## 1. Printable texts -/

/-- A text all of whose characters are printable. -/
def IsPrintable (text : String) : Prop := ∀ c ∈ text.toList, isPrintable c = true

instance (text : String) : Decidable (IsPrintable text) :=
  decidable_of_iff (text.toList.all isPrintable = true) List.all_eq_true

theorem isPrintable_append_iff {first second : String} :
    IsPrintable (first ++ second) ↔ IsPrintable first ∧ IsPrintable second := by
  rw [IsPrintable, String.toList_append, List.forall_mem_append, IsPrintable, IsPrintable]

/-- A printable text is on one line. -/
theorem IsPrintable.lineFeed_not_mem {text : String} (h : IsPrintable text) :
    '\n' ∉ text.toList := fun hm => absurd (h '\n' hm) (by decide)

/-! ## 2. Quoted characters -/

/-- Hexadecimal digits are printable. -/
theorem isPrintable_of_mem_hexDigits : ∀ {width n : Nat}, c ∈ hexDigits width n →
    isPrintable c = true
  | 0, _, h => absurd h List.not_mem_nil
  | _ + 1, n, h => by
    have hdigit : ∀ d < 16, isPrintable (Nat.digitChar d) = true := by decide
    rcases List.mem_append.mp h with h | h
    · exact isPrintable_of_mem_hexDigits h
    · rw [List.mem_singleton.mp h]
      exact hdigit _ (Nat.mod_lt n (by decide))

/-- A code point shown by its number is printable. -/
theorem isPrintable_of_mem_numbered (h : c ∈ numbered d) : isPrintable c = true := by
  have hmarked : ∀ {letter : Char} {width : Nat}, isPrintable letter = true →
      c ∈ '\\' :: letter :: hexDigits width d.toNat → isPrintable c = true := by
    intro letter width hletter hm
    rcases List.mem_cons.mp hm with rfl | hm
    · decide
    · rcases List.mem_cons.mp hm with rfl | hm
      · exact hletter
      · exact isPrintable_of_mem_hexDigits hm
  unfold numbered at h
  split at h
  · exact hmarked (by decide) h
  · split at h
    · exact hmarked (by decide) h
    · exact hmarked (by decide) h

/-- **A character is printable once it is quoted**, given that the quote is. -/
theorem isPrintable_of_mem_quotedChar (hq : isPrintable quote = true)
    (h : c ∈ quotedChar quote d) : isPrintable c = true := by
  have hpair : ∀ {letter : Char}, isPrintable letter = true → c ∈ ['\\', letter] →
      isPrintable c = true := by
    intro letter hletter hm
    rcases List.mem_cons.mp hm with rfl | hm
    · decide
    · rw [List.mem_singleton.mp hm]
      exact hletter
  unfold quotedChar at h
  split at h
  · rename_i hd
    refine hpair ?_ h
    rcases hd with rfl | rfl
    · decide
    · exact hq
  · split at h
    · exact hpair (by decide) h
    · split at h
      · exact hpair (by decide) h
      · split at h
        · exact hpair (by decide) h
        · split at h
          · rename_i hd
            rw [List.mem_singleton.mp h]
            exact hd
          · exact isPrintable_of_mem_numbered h

/-! ## 3. Quoted texts -/

theorem isPrintable_quoteFor (cs : List Char) : isPrintable (quoteFor cs) = true := by
  unfold quoteFor
  split <;> decide

/-- **A quoted text is printable**, whatever the text. -/
theorem isPrintable_quoted (text : String) : IsPrintable (quoted text) := by
  intro c h
  have hq := isPrintable_quoteFor text.toList
  rw [quoted, String.toList_ofList] at h
  rcases List.mem_append.mp h with h | h
  · rcases List.mem_cons.mp h with rfl | h
    · exact hq
    · obtain ⟨d, _, hd⟩ := List.mem_flatMap.mp h
      exact isPrintable_of_mem_quotedChar hq hd
  · rw [List.mem_singleton.mp h]
    exact hq

end Measures.Text
