import Measures.Text.Blank

/-!
# ASCII characters

Digits and letters are ASCII characters here, and lower-casing a single character moves the ASCII
capitals only. What holds of them all is checked on the 128 code points.

* `forall_ascii`: the way from the code points to the characters;
* `eq_of_toLower_eq`: only letters come from other characters in lower case;
* `isAlpha_toLower`: lower-casing keeps letters and makes none.
-/

namespace Measures.Text

/-- What holds of the first 128 code points holds of the ASCII characters. -/
theorem forall_ascii (P : Char → Prop) (h : ∀ n < 128, P (Char.ofNat n)) {c : Char}
    (hc : c.toNat < 128) : P c := by
  have hP := h c.toNat hc
  rwa [Char.ofNat_toNat] at hP

/-- What is checked of the characters of a list one by one holds of all of them. -/
theorem forall_of_all (P : Char → Prop) [DecidablePred P] {cs : List Char}
    (h : (cs.all fun c => decide (P c)) = true) {c : Char} (hc : c ∈ cs) : P c :=
  of_decide_eq_true (List.all_eq_true.mp h c hc)

/-! ## 1. Digits and letters -/

theorem toNat_lt_of_isDigit {c : Char} (h : c.isDigit = true) : c.toNat < 128 :=
  Nat.lt_of_le_of_lt (Char.isDigit_iff_toNat.mp h).2 (by decide)

theorem toNat_lt_of_isAlpha {c : Char} (h : c.isAlpha = true) : c.toNat < 128 := by
  have hcase : (c.isUpper || c.isLower) = true := h
  rcases Bool.or_eq_true_iff.mp hcase with hu | hl
  · have hle := (of_decide_eq_true hu).2
    exact Nat.lt_of_le_of_lt (UInt32.le_iff_toNat_le.mp hle) (by decide)
  · have hle := (Bool.and_eq_true_iff.mp hl).2
    exact Nat.lt_of_le_of_lt (UInt32.le_iff_toNat_le.mp (of_decide_eq_true hle)) (by decide)

theorem isAlpha_of_isDigit {c : Char} (h : c.isDigit = true) : c.isAlpha = false :=
  forall_ascii (fun c => c.isDigit = true → c.isAlpha = false) (by decide)
    (toNat_lt_of_isDigit h) h

theorem isBlank_of_isDigit {c : Char} (h : c.isDigit = true) : isBlank c = false :=
  forall_ascii (fun c => c.isDigit = true → isBlank c = false) (by decide)
    (toNat_lt_of_isDigit h) h

theorem isBlank_of_isAlpha {c : Char} (h : c.isAlpha = true) : isBlank c = false :=
  forall_ascii (fun c => c.isAlpha = true → isBlank c = false) (by decide)
    (toNat_lt_of_isAlpha h) h

theorem ne_of_isDigit {c d : Char} (h : c.isDigit = true) (hd : d.isDigit = false) : c ≠ d := by
  rintro rfl
  rw [h] at hd
  cases hd

/-! ## 2. Lower case of a character -/

/-- Lower-casing moves nothing but letters. -/
theorem toLower_of_not_isAlpha {c : Char} (h : c.isAlpha = false) : c.toLower = c := by
  unfold Char.toLower
  rw [dif_neg]
  intro hc
  have hupper : c.isUpper = true := decide_eq_true hc
  have hcase : (c.isUpper || c.isLower) = false := h
  rw [hupper] at hcase
  cases hcase

theorem toLower_of_isDigit {c : Char} (h : c.isDigit = true) : c.toLower = c :=
  toLower_of_not_isAlpha (isAlpha_of_isDigit h)

/-- **Lower-casing keeps letters and makes none.** -/
theorem isAlpha_toLower (c : Char) : c.toLower.isAlpha = c.isAlpha := by
  cases h : c.isAlpha with
  | false => rw [toLower_of_not_isAlpha h, h]
  | true =>
    exact forall_ascii (fun c => c.isAlpha = true → c.toLower.isAlpha = true) (by decide)
      (toNat_lt_of_isAlpha h) h

/-- **What is no letter in lower case was the same character before.** -/
theorem eq_of_toLower_eq {c d : Char} (h : c.toLower = d) (hd : d.isAlpha = false) : c = d := by
  subst h
  rw [isAlpha_toLower] at hd
  exact (toLower_of_not_isAlpha hd).symm

theorem isDigit_toLower (c : Char) : c.toLower.isDigit = c.isDigit := by
  cases h : c.isAlpha with
  | false => rw [toLower_of_not_isAlpha h]
  | true =>
    have hl : c.toLower.isAlpha = true := (isAlpha_toLower c).trans h
    cases hd : c.isDigit with
    | true => exact absurd (isAlpha_of_isDigit hd) (by simp [h])
    | false =>
      cases hd' : c.toLower.isDigit with
      | true => exact absurd (isAlpha_of_isDigit hd') (by simp [hl])
      | false => rfl

theorem toLower_toLower (c : Char) : c.toLower.toLower = c.toLower := by
  cases h : c.isAlpha with
  | false => rw [toLower_of_not_isAlpha h, toLower_of_not_isAlpha h]
  | true =>
    exact forall_ascii (fun c => c.toLower.toLower = c.toLower) (by decide) (toNat_lt_of_isAlpha h)

/-- Lower-casing a character neither leaves ASCII nor enters it. -/
theorem toNat_toLower_lt_iff (c : Char) : c.toLower.toNat < 128 ↔ c.toNat < 128 := by
  cases h : c.isAlpha with
  | false => rw [toLower_of_not_isAlpha h]
  | true =>
    have hl : c.toLower.isAlpha = true := (isAlpha_toLower c).trans h
    exact iff_of_true (toNat_lt_of_isAlpha hl) (toNat_lt_of_isAlpha h)

end Measures.Text
