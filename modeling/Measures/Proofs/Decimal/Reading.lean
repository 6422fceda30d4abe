import Measures.Decimal.Numeral
import Measures.Proofs.Text.Ascii
import Measures.Proofs.Text.Words

/-!
# Reading numerals that start with digits

The numerals of a question are a small part of those that can be read: an optional minus and
digits, possibly followed by one of `.`, `e`, `E` and digits. This file fixes that part and says
what reading does on it.

* `IsWhole`, `IsAmount`: whole numbers, and the numerals of a question;
* `isSome_numeral?_iff`: digits after one character other than a digit make a numeral exactly if
  that character is one of the three;
* `exists_read?`: every numeral of a question is read.
-/

namespace Measures.Decimal

open Text (AllOf IsDigits isBlank)

/-! ## 1. The numerals of a question -/

/-- An optional minus and digits. -/
def IsWhole (cs : List Char) : Prop := IsDigits cs ∨ ∃ ds, cs = '-' :: ds ∧ IsDigits ds

/-- The characters that may stand between two groups of digits. -/
def marks : List Char := ['.', 'e', 'E']

/-- A whole number, or one followed by a single mark and digits. -/
def IsAmount (cs : List Char) : Prop :=
  IsWhole cs ∨ ∃ whole mark places, cs = whole ++ mark :: places ∧
    IsWhole whole ∧ mark ∈ marks ∧ IsDigits places

/-- Neither a minus nor a mark is white space or outside ASCII. -/
theorem IsAmount.chars {cs : List Char} (h : IsAmount cs) :
    ∀ c ∈ cs, c.isDigit = true ∨ c ∈ '-' :: marks := by
  have hwhole : ∀ {ds : List Char}, IsWhole ds → ∀ c ∈ ds, c.isDigit = true ∨ c ∈ '-' :: marks := by
    intro ds hw c hc
    rcases hw with hd | ⟨es, rfl, hd⟩
    · exact .inl (hd.2 c hc)
    · rcases List.mem_cons.mp hc with rfl | hc
      · exact .inr List.mem_cons_self
      · exact .inl (hd.2 c hc)
  rcases h with hw | ⟨whole, mark, places, rfl, hw, hm, hp⟩
  · exact hwhole hw
  · intro c hc
    rcases List.mem_append.mp hc with hc | hc
    · exact hwhole hw c hc
    · rcases List.mem_cons.mp hc with rfl | hc
      · exact .inr (List.mem_cons_of_mem _ hm)
      · exact .inl (hp.2 c hc)

theorem IsAmount.ascii {cs : List Char} (h : IsAmount cs) :
    ∀ c ∈ cs, c.toNat < 128 ∧ c ≠ '_' ∧ isBlank c = false := by
  intro c hc
  rcases h.chars c hc with hd | hm
  · exact ⟨Text.toNat_lt_of_isDigit hd, Text.ne_of_isDigit hd (by decide),
      Text.isBlank_of_isDigit hd⟩
  · exact Text.forall_of_all (fun d => d.toNat < 128 ∧ d ≠ '_' ∧ isBlank d = false) (by decide) hm

theorem IsAmount.ne_nil {cs : List Char} (h : IsAmount cs) : cs ≠ [] := by
  rcases h with (hd | ⟨ds, rfl, _⟩) | ⟨whole, mark, places, rfl, _⟩
  · exact hd.1
  · simp
  · simp

/-- There is a digit in every amount. -/
theorem IsAmount.exists_mem_isDigit {cs : List Char} (h : IsAmount cs) :
    ∃ c ∈ cs, c.isDigit = true := by
  have hwhole : ∀ {ds : List Char}, IsWhole ds → ∃ c ∈ ds, c.isDigit = true := by
    intro ds hw
    rcases hw with hd | ⟨es, rfl, hd⟩
    · obtain ⟨c, rest, rfl, hc⟩ := hd.exists_cons
      exact ⟨c, List.mem_cons_self, hc⟩
    · obtain ⟨c, rest, rfl, hc⟩ := hd.exists_cons
      exact ⟨c, List.mem_cons_of_mem _ List.mem_cons_self, hc⟩
  rcases h with hw | ⟨whole, mark, places, rfl, hw, _⟩
  · exact hwhole hw
  · obtain ⟨c, hm, hc⟩ := hwhole hw
    exact ⟨c, List.mem_append_left _ hm, hc⟩

theorem IsWhole.of_minus {cs : List Char} (h : IsWhole ('-' :: cs)) : IsDigits cs := by
  rcases h with hd | ⟨ds, he, hd⟩
  · exact absurd (hd.2 '-' List.mem_cons_self) (by decide)
  · exact (List.cons.inj he).2 ▸ hd

/-- What follows the minus of an amount: digits, and possibly a mark and digits. -/
theorem IsAmount.of_minus {cs : List Char} (h : IsAmount ('-' :: cs)) :
    IsDigits cs ∨ ∃ ds mark places, cs = ds ++ mark :: places ∧
      IsDigits ds ∧ mark ∈ marks ∧ IsDigits places := by
  rcases h with hw | ⟨whole, mark, places, he, hw, hm, hp⟩
  · exact .inl hw.of_minus
  · refine .inr ?_
    rcases List.cons_eq_append_iff.mp he with ⟨rfl, _⟩ | ⟨ds, rfl, hcs⟩
    · rcases hw with hd | ⟨_, he, _⟩
      · exact absurd rfl hd.1
      · cases he
    · exact ⟨ds, mark, places, hcs, hw.of_minus, hm, hp⟩

theorem IsAmount.exists_digit {cs : List Char} (h : IsAmount ('-' :: cs)) :
    ∃ d rest, cs = d :: rest ∧ d.isDigit = true := by
  rcases h.of_minus with hd | ⟨ds, mark, places, rfl, hd, _⟩
  · exact hd.exists_cons
  · obtain ⟨d, rest, rfl, hc⟩ := hd.exists_cons
    exact ⟨d, rest ++ mark :: places, rfl, hc⟩

/-! ## 2. Fractions -/

/-- What starts with a digit has no sign. -/
theorem splitSign_digits {ds : List Char} (h : IsDigits ds) (rest : List Char) :
    splitSign (ds ++ rest) = (false, ds ++ rest) := by
  obtain ⟨c, more, rfl, hc⟩ := h.exists_cons
  unfold splitSign
  split
  · rename_i he
    exact absurd (List.cons.inj he).1 (Text.ne_of_isDigit hc (by decide))
  · rename_i he
    exact absurd (List.cons.inj he).1 (Text.ne_of_isDigit hc (by decide))
  · rfl

/-- Digits after `e` or `E` are an exponent. -/
theorem exponent?_digits {mark : Char} {ds : List Char} (hm : mark = 'e' ∨ mark = 'E')
    (h : IsDigits ds) : exponent? (mark :: ds) = some (natOf ds) := by
  have hall : ds.all Char.isDigit = true := List.all_eq_true.mpr h.2
  have hs : splitSign ds = (false, ds) := by simpa using splitSign_digits h []
  simp [exponent?, hm, integer?, hs, h.1, hall]

/-- Digits alone are a fraction. -/
theorem fraction?_digits {ds : List Char} (h : IsDigits ds) :
    fraction? ds = some (natOf ds, 0) := by
  have ht : ds.takeWhile Char.isDigit = ds := List.takeWhile_eq_self_iff.mpr h.2
  have hd : ds.dropWhile Char.isDigit = [] := List.dropWhile_eq_nil_iff.mpr h.2
  unfold fraction?
  simp [ht, hd, h.1, exponent?]

/-- Digits, a point and digits are a fraction. -/
theorem fraction?_point {ds places : List Char} (h : IsDigits ds) (hp : IsDigits places) :
    fraction? (ds ++ '.' :: places) = some (natOf (ds ++ places), 0 - (places.length : Int)) := by
  have hpoint : Char.isDigit '.' = false := by decide
  have ht : places.takeWhile Char.isDigit = places := List.takeWhile_eq_self_iff.mpr hp.2
  have hd : places.dropWhile Char.isDigit = [] := List.dropWhile_eq_nil_iff.mpr hp.2
  unfold fraction?
  rw [Text.takeWhile_append_stop h.2 hpoint, Text.dropWhile_append_stop h.2 hpoint]
  simp [ht, hd, h.1, exponent?]

/-- After digits, any character but a digit and a point must start an exponent. -/
theorem fraction?_exponent {ds rest : List Char} {c : Char} (h : IsDigits ds)
    (hc : c.isDigit = false) (hp : c ≠ '.') :
    fraction? (ds ++ c :: rest) = (exponent? (c :: rest)).map fun e => (natOf ds, e) := by
  unfold fraction?
  rw [Text.takeWhile_append_stop h.2 hc, Text.dropWhile_append_stop h.2 hc]
  split
  · rename_i he
    exact absurd (List.cons.inj he).1 hp
  · rw [if_neg h.1]

/-- **One character other than a digit, between digits, must be a mark.** -/
theorem isSome_fraction?_iff {ds places : List Char} {c : Char} (h : IsDigits ds)
    (hc : c.isDigit = false) (hp : IsDigits places) :
    (fraction? (ds ++ c :: places)).isSome = true ↔ c ∈ marks := by
  by_cases hpoint : c = '.'
  · subst hpoint
    simp [fraction?_point h hp, marks]
  · rw [fraction?_exponent h hc hpoint, Option.isSome_map]
    by_cases he : c = 'e' ∨ c = 'E'
    · rw [exponent?_digits he hp]
      simp [marks, he]
    · simp [exponent?, marks, he, hpoint]

/-! ## 3. Numerals -/

/-- What starts with a digit is not the name of a number. -/
theorem name_ne {ds : List Char} (h : IsDigits ds) (rest : List Char) :
    (ds ++ rest).map Char.toLower ∉ infinityNames ∧
      (ds ++ rest).map Char.toLower ≠ undefinedName := by
  obtain ⟨c, more, rfl, hc⟩ := h.exists_cons
  have hi : c ≠ 'i' := Text.ne_of_isDigit hc (by decide)
  have hn : c ≠ 'n' := Text.ne_of_isDigit hc (by decide)
  simp [infinityNames, undefinedName, Text.toLower_of_isDigit hc, hi, hn]

theorem numeral?_digits {ds : List Char} (h : IsDigits ds) (rest : List Char) :
    numeral? (ds ++ rest) = (fraction? (ds ++ rest)).map fun f => .finite false f.1 f.2 := by
  unfold numeral?
  simp only [splitSign_digits h rest, name_ne h rest, if_false]

theorem numeral?_minus {ds : List Char} (h : IsDigits ds) (rest : List Char) :
    numeral? ('-' :: (ds ++ rest)) =
      (fraction? (ds ++ rest)).map fun f => .finite true f.1 f.2 := by
  have hs : splitSign ('-' :: (ds ++ rest)) = (true, ds ++ rest) := rfl
  unfold numeral?
  simp only [hs, name_ne h rest, if_false]

/-- **After a whole number, a character other than a digit and digits make a numeral exactly if the
    character is a mark.** -/
theorem isSome_numeral?_iff {whole places : List Char} {c : Char} (h : IsWhole whole)
    (hc : c.isDigit = false) (hp : IsDigits places) :
    (numeral? (whole ++ c :: places)).isSome = true ↔ c ∈ marks := by
  rcases h with hd | ⟨ds, rfl, hd⟩
  · rw [numeral?_digits hd, Option.isSome_map, isSome_fraction?_iff hd hc hp]
  · rw [List.cons_append, numeral?_minus hd, Option.isSome_map, isSome_fraction?_iff hd hc hp]

theorem isSome_numeral?_whole {whole : List Char} (h : IsWhole whole) :
    (numeral? whole).isSome = true := by
  rcases h with hd | ⟨ds, rfl, hd⟩
  · have h := numeral?_digits hd []
    rw [List.append_nil, fraction?_digits hd] at h
    rw [h]
    rfl
  · have h := numeral?_minus hd []
    rw [List.append_nil, fraction?_digits hd] at h
    rw [h]
    rfl

theorem isDigit_of_mem_marks {c : Char} (h : c ∈ marks) : c.isDigit = false := by
  exact Text.forall_of_all (fun d => d.isDigit = false) (by decide) h

theorem isSome_numeral? {cs : List Char} (h : IsAmount cs) : (numeral? cs).isSome = true := by
  rcases h with hw | ⟨whole, mark, places, rfl, hw, hm, hp⟩
  · exact isSome_numeral?_whole hw
  · exact (isSome_numeral?_iff hw (isDigit_of_mem_marks hm) hp).mpr hm

/-! ## 4. Texts -/

theorem isBlank_of_isMargin {c : Char} (h : isMargin c = true) : isBlank c = true := by
  have hb : ∀ n < 33, n = 32 ∨ 9 ≤ n ∧ n ≤ 13 → Text.inRuns Text.blankRuns n = true := by decide
  simp only [isMargin, Bool.or_eq_true, decide_eq_true_eq, Bool.and_eq_true] at h
  rcases h with rfl | ⟨hl, hu⟩
  · decide
  · exact hb _ (by omega) (.inr ⟨hl, hu⟩)

/-- A text without white space has no margins. -/
theorem withoutMargins_of_not_blank {cs : List Char} (h : ∀ c ∈ cs, isBlank c = false) :
    withoutMargins cs = cs := by
  have hdrop : ∀ {ds : List Char}, (∀ c ∈ ds, isBlank c = false) → ds.dropWhile isMargin = ds := by
    intro ds hds
    cases ds with
    | nil => rfl
    | cons c rest =>
      refine List.dropWhile_cons_of_neg fun hm => ?_
      have := hds c List.mem_cons_self
      rw [isBlank_of_isMargin hm] at this
      cases this
  unfold withoutMargins
  rw [hdrop h, hdrop fun c hc => h c (List.mem_reverse.mp hc), List.reverse_reverse]

theorem read?_of_not_blank {text : String} (h : ∀ c ∈ text.toList, isBlank c = false) :
    read? text = (numeral? text.toList).map Numeral.value := by
  unfold read?
  rw [withoutMargins_of_not_blank h]

/-- **Every numeral of a question is read.** -/
theorem exists_read? {text : String} (h : IsAmount text.toList) : ∃ x, read? text = some x := by
  rw [read?_of_not_blank fun c hc => (h.ascii c hc).2.2]
  obtain ⟨n, hn⟩ := Option.isSome_iff_exists.mp (isSome_numeral? h)
  exact ⟨n.value, by rw [hn]; rfl⟩

end Measures.Decimal
