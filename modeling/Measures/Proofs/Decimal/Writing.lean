import Measures.Decimal.Shortest
import Measures.Proofs.Text.Quoted

/-!
# The characters of a written number

Whatever its format, a number is written with the digits and a few other characters. All of these
can be printed and none is white space, so that a number is one word in every text it stands in.

* `IsWritten`: the characters numbers are written with;
* `isWritten_of_mem_write`: there are no others in any number;
* `isPrintable_write`, `isBlank_of_mem_write`: so a number can be printed and is one word.
-/

namespace Measures.Decimal

open Text (isBlank isPrintable IsPrintable)

variable {c : Char}

/-- What stands in a number besides its digits: signs, the point, the letter of the exponent, and
    the letters of `inf` and `nan`. -/
def writtenMarks : List Char := ['-', '+', '.', 'e', 'i', 'n', 'f', 'a']

/-- A character that numbers are written with. -/
def IsWritten (c : Char) : Prop := c.isDigit = true ∨ c ∈ writtenMarks

instance (c : Char) : Decidable (IsWritten c) := inferInstanceAs (Decidable (_ ∨ _))

theorem isWritten_zero : IsWritten '0' := .inl (by decide)

/-- No character of a number is white space, and all are printable. -/
theorem IsWritten.visible (h : IsWritten c) : isBlank c = false ∧ isPrintable c = true := by
  rcases h with hd | hm
  · exact Text.forall_ascii
      (fun d => d.isDigit = true → isBlank d = false ∧ isPrintable d = true) (by decide)
      (Text.toNat_lt_of_isDigit hd) hd
  · exact Text.forall_of_all (fun d => isBlank d = false ∧ isPrintable d = true) (by decide) hm

/-! ## 1. The parts of a number -/

theorem isWritten_of_mem_signText {negative : Bool} (h : c ∈ signText negative) : IsWritten c := by
  cases negative with
  | true =>
    rw [List.mem_singleton.mp h]
    decide
  | false => cases h

theorem isWritten_of_mem_toDigits {n : Nat} (h : c ∈ Nat.toDigits 10 n) : IsWritten c :=
  .inl (Nat.isDigit_of_mem_toDigits (by decide) (by decide) h)

/-- Zeros that fill a number up are digits. -/
theorem isWritten_of_mem_replicate {n : Nat} (h : c ∈ List.replicate n '0') : IsWritten c :=
  List.eq_of_mem_replicate h ▸ isWritten_zero

theorem isWritten_of_mem_padZeros {width : Nat} {ds : List Char} (hds : ∀ d ∈ ds, IsWritten d)
    (h : c ∈ padZeros width ds) : IsWritten c :=
  (List.mem_append.mp h).elim isWritten_of_mem_replicate (hds c)

section

variable {ds : List Char} (hds : ∀ d ∈ ds, IsWritten d)
include hds

theorem isWritten_of_mem_positional {point : Int} (h : c ∈ positional ds point) : IsWritten c := by
  unfold positional at h
  split at h
  · rcases List.mem_cons.mp h with rfl | h
    · decide
    · rcases List.mem_cons.mp h with rfl | h
      · decide
      · exact (List.mem_append.mp h).elim isWritten_of_mem_replicate (hds c)
  · split at h
    · rcases List.mem_append.mp h with h | h
      · exact (List.mem_append.mp h).elim (hds c) isWritten_of_mem_replicate
      · exact Text.forall_of_all IsWritten (by decide) h
    · rcases List.mem_append.mp h with h | h
      · exact hds c (List.mem_of_mem_take h)
      · rcases List.mem_cons.mp h with rfl | h
        · decide
        · exact hds c (List.mem_of_mem_drop h)

theorem isWritten_of_mem_exponential {width : Nat} {exponent : Int}
    (h : c ∈ exponential width ds exponent) : IsWritten c := by
  have hfirst : ∀ d ∈ (if ds.length ≤ 1 then [] else '.' :: ds.drop 1), IsWritten d := by
    intro d hd
    split at hd
    · cases hd
    · rcases List.mem_cons.mp hd with rfl | hd
      · decide
      · exact hds d (List.mem_of_mem_drop hd)
  rcases List.mem_append.mp h with h | h
  · exact (List.mem_append.mp h).elim (fun h => hds c (List.mem_of_mem_take h)) (hfirst c)
  · rcases List.mem_cons.mp h with rfl | h
    · decide
    · rcases List.mem_cons.mp h with rfl | h
      · split <;> decide
      · exact isWritten_of_mem_padZeros (fun _ => isWritten_of_mem_toDigits) h

theorem isWritten_of_mem_layout {f : Format} {point : Int} (h : c ∈ f.layout ds point) :
    IsWritten c := by
  unfold Format.layout at h
  split at h
  · exact isWritten_of_mem_positional hds h
  · exact isWritten_of_mem_exponential hds h

end

/-! ## 2. Numbers -/

theorem isWritten_of_mem_text {f : Format} {digits : Nat} {exponent : Int}
    (h : c ∈ f.text digits exponent) : IsWritten c := by
  refine isWritten_of_mem_layout (fun d hd => ?_) h
  have hsuffix := (List.dropWhile_suffix (l := (Nat.toDigits 10 digits).reverse) (· = '0')).subset
  exact isWritten_of_mem_toDigits (List.mem_reverse.mp (hsuffix (List.mem_reverse.mp hd)))

/-- **A number is written with digits, signs, a point and a few letters.** -/
theorem isWritten_of_mem_write {f : Format} {x : Float} (h : c ∈ (f.write x).toList) :
    IsWritten c := by
  have hsigned : ∀ {cs : List Char}, (∀ d ∈ cs, IsWritten d) →
      c ∈ signText (isNegative x) ++ cs → IsWritten c := fun hcs h =>
    (List.mem_append.mp h).elim isWritten_of_mem_signText (hcs c)
  rw [Format.write, String.toList_ofList] at h
  split at h
  · split at h
    · exact hsigned (fun _ => Text.forall_of_all IsWritten (by decide)) h
    · exact Text.forall_of_all IsWritten (by decide) h
  · split at h
    · exact hsigned (fun _ => Text.forall_of_all IsWritten (by decide)) h
    · exact hsigned (fun _ => isWritten_of_mem_text) h

/-- **There is no white space in a number.** -/
theorem isBlank_of_mem_write {f : Format} {x : Float} (h : c ∈ (f.write x).toList) :
    isBlank c = false := (isWritten_of_mem_write h).visible.1

/-- **A number is printable.** -/
theorem isPrintable_write (f : Format) (x : Float) : IsPrintable (f.write x) :=
  fun _ h => (isWritten_of_mem_write h).visible.2

end Measures.Decimal
