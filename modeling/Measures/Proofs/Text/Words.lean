import Mathlib.Data.List.Basic
import Mathlib.Data.List.TakeWhile
import Measures.Text.Blank

/-!
# Cutting undoes joining

What is put together with a separator between the pieces is cut into the same pieces again, as long
as no piece holds the separator. So a line can be treated as its words, and a joined text as the
words it was joined from.

* `pieces_append_sep`: a separator cuts, and the texts on its two sides are cut separately;
* `pieces_intercalate`, `intercalate_pieces`: cutting and joining undo each other;
* `wordsOf_intercalate`, `words_intercalate`: joining keeps words apart, so that the words of a line
  of words are those words;
* `eq_append_of_words`: before the first word there is white space only;
* `takeWhile_append_stop`: a run of characters of a class ends before the first other character.
-/

namespace Measures.Text

/-! ## 1. Texts of one class -/

/-- One character or more, all of the class `p`. -/
def AllOf (p : Char → Bool) (cs : List Char) : Prop := cs ≠ [] ∧ ∀ c ∈ cs, p c = true

/-- One ASCII digit or more. -/
abbrev IsDigits : List Char → Prop := AllOf Char.isDigit

/-- One ASCII letter or more. -/
abbrev IsLetters : List Char → Prop := AllOf Char.isAlpha

instance (p : Char → Bool) (cs : List Char) : Decidable (AllOf p cs) :=
  decidable_of_iff (cs ≠ [] ∧ cs.all p = true) (and_congr_right fun _ => List.all_eq_true)

theorem AllOf.exists_cons {p : Char → Bool} {cs : List Char} (h : AllOf p cs) :
    ∃ c rest, cs = c :: rest ∧ p c = true := by
  obtain ⟨c, rest, rfl⟩ := List.exists_cons_of_ne_nil h.1
  exact ⟨c, rest, rfl, h.2 c List.mem_cons_self⟩

/-- A character outside the class does not occur. -/
theorem AllOf.not_mem {p : Char → Bool} {cs : List Char} (h : AllOf p cs) {c : Char}
    (hc : p c = false) : c ∉ cs := fun hm => by
  rw [h.2 c hm] at hc
  cases hc

/-- A run ends before the first character of another class. -/
theorem takeWhile_append_stop {p : Char → Bool} {us vs : List Char} (hu : ∀ c ∈ us, p c = true)
    {d : Char} (hd : p d = false) : (us ++ d :: vs).takeWhile p = us := by
  rw [List.takeWhile_append_of_pos hu, List.takeWhile_cons_of_neg (by simp [hd]), List.append_nil]

/-- What is left after a run starts with the first character of another class. -/
theorem dropWhile_append_stop {p : Char → Bool} {us vs : List Char} (hu : ∀ c ∈ us, p c = true)
    {d : Char} (hd : p d = false) : (us ++ d :: vs).dropWhile p = d :: vs := by
  rw [List.dropWhile_append_of_pos hu, List.dropWhile_cons_of_neg (by simp [hd])]

/-- A run that is not empty is a text of the class. -/
theorem allOf_takeWhile {p : Char → Bool} {cs : List Char} (h : cs.takeWhile p ≠ []) :
    AllOf p (cs.takeWhile p) := ⟨h, fun _ hc => List.mem_takeWhile_imp hc⟩

/-! ## 2. Pieces -/

/-- A text without separators is one piece. -/
theorem pieces_of_not_sep {sep : Char → Bool} : ∀ {cs : List Char}, (∀ c ∈ cs, sep c = false) →
    pieces sep cs = [cs]
  | [], _ => rfl
  | c :: rest, h => by
    have ih := pieces_of_not_sep fun d hd => h d (List.mem_cons_of_mem c hd)
    simp [pieces, h c List.mem_cons_self, ih]

/-- **A separator cuts**, and the texts on its two sides are cut separately. -/
theorem pieces_append_sep {sep : Char → Bool} {d : Char} (hd : sep d = true) :
    ∀ us vs : List Char, pieces sep (us ++ d :: vs) = pieces sep us ++ pieces sep vs
  | [], vs => by simp [pieces, hd]
  | c :: us, vs => by
    have ih := pieces_append_sep hd us vs
    simp only [List.cons_append, pieces, ih]
    split
    · rfl
    · cases h : pieces sep us with
      | nil => exact absurd h (pieces_ne_nil sep us)
      | cons piece more => rfl

/-- **Pieces that are joined are cut again.** -/
theorem pieces_intercalate {sep : Char → Bool} {d : Char} (hd : sep d = true) :
    ∀ {ws : List (List Char)}, ws ≠ [] → (∀ w ∈ ws, ∀ c ∈ w, sep c = false) →
      pieces sep ([d].intercalate ws) = ws
  | [], h, _ => absurd rfl h
  | [w], _, h => by
    rw [List.intercalate_singleton, pieces_of_not_sep (h w List.mem_cons_self)]
  | w :: v :: vs, _, h => by
    have ih := pieces_intercalate hd (List.cons_ne_nil v vs) fun u hu =>
      h u (List.mem_cons_of_mem w hu)
    rw [List.intercalate_cons_cons, List.append_assoc, List.singleton_append,
      pieces_append_sep hd, pieces_of_not_sep (h w List.mem_cons_self), ih]
    rfl

/-- **Pieces cut at one character are joined by it again.** -/
theorem intercalate_pieces (d : Char) : ∀ cs : List Char, [d].intercalate (pieces (· = d) cs) = cs
  | [] => rfl
  | c :: rest => by
    have ih := intercalate_pieces d rest
    have hne := pieces_ne_nil (· = d) rest
    unfold pieces
    split
    · rename_i hc
      rw [List.intercalate_cons_of_ne_nil hne, ih]
      simpa using (of_decide_eq_true hc).symm
    · cases h : pieces (· = d) rest with
      | nil => exact absurd h hne
      | cons piece more =>
        rw [h] at ih
        rw [← ih]
        cases more <;> rfl

/-! ## 3. Words -/

/-- A text without white space is one word, if there is anything in it. -/
theorem wordsOf_of_not_blank {cs : List Char} (hne : cs ≠ []) (h : ∀ c ∈ cs, isBlank c = false) :
    wordsOf cs = [cs] := by
  unfold wordsOf
  rw [pieces_of_not_sep h]
  simp [hne]

/-- White space parts the words before it from those after it. -/
theorem wordsOf_append_blank {d : Char} (hd : isBlank d = true) (us vs : List Char) :
    wordsOf (us ++ d :: vs) = wordsOf us ++ wordsOf vs := by
  unfold wordsOf
  rw [pieces_append_sep hd, List.filter_append]

/-- What does not start with white space starts with a word, which ends with the text or at white
    space. -/
theorem exists_word {c : Char} : ∀ cs : List Char, isBlank c = false →
    ∃ word tail, c :: cs = word ++ tail ∧ word ≠ [] ∧ (∀ d ∈ word, isBlank d = false) ∧
      (tail = [] ∨ ∃ b vs, tail = b :: vs ∧ isBlank b = true)
  | [], hc => ⟨[c], [], rfl, by simp, by simpa using hc, .inl rfl⟩
  | d :: cs, hc => by
    cases hd : isBlank d with
    | true => exact ⟨[c], d :: cs, rfl, by simp, by simpa using hc, .inr ⟨d, cs, rfl, hd⟩⟩
    | false =>
      obtain ⟨word, tail, he, _, hword, htail⟩ := exists_word cs hd
      exact ⟨c :: word, tail, congrArg (c :: ·) he, by simp, List.forall_mem_cons.mpr ⟨hc, hword⟩,
        htail⟩

/-- **Before the first word there is white space only.** -/
theorem eq_append_of_wordsOf {w : List Char} {rest : List (List Char)} : ∀ {cs : List Char},
    wordsOf cs = w :: rest →
      ∃ margin tail, cs = margin ++ w ++ tail ∧ ∀ c ∈ margin, isBlank c = true
  | [], h => by cases h
  | c :: cs, h => by
    cases hc : isBlank c with
    | true =>
      have hskip : wordsOf (c :: cs) = wordsOf cs := wordsOf_append_blank hc [] cs
      obtain ⟨margin, tail, he, hm⟩ := eq_append_of_wordsOf (hskip.symm.trans h)
      exact ⟨c :: margin, tail, congrArg (c :: ·) he, List.forall_mem_cons.mpr ⟨hc, hm⟩⟩
    | false =>
      obtain ⟨word, tail, he, hne, hword, rfl | ⟨b, vs, rfl, hb⟩⟩ := exists_word cs hc
      · rw [List.append_nil] at he
        rw [he, wordsOf_of_not_blank hne hword] at h
        cases h
        exact ⟨[], [], by simp [he], by simp⟩
      · rw [he, wordsOf_append_blank hb, wordsOf_of_not_blank hne hword] at h
        cases h
        exact ⟨[], b :: vs, he, by simp⟩

/-- A word of a line is not empty and holds no white space. -/
theorem mem_words {line w : String} (h : w ∈ words line) :
    w.toList ≠ [] ∧ ∀ c ∈ w.toList, isBlank c = false := by
  obtain ⟨cs, hcs, rfl⟩ := List.mem_map.mp h
  rw [String.toList_ofList]
  exact mem_wordsOf hcs

theorem eq_append_of_words {line first : String} {rest : List String}
    (h : words line = first :: rest) : ∃ margin tail, line.toList = margin ++ first.toList ++ tail ∧
      ∀ c ∈ margin, isBlank c = true := by
  obtain ⟨w, ws, hw, rfl, _⟩ := List.map_eq_cons_iff.mp h
  rw [String.toList_ofList]
  exact eq_append_of_wordsOf hw

/-- A line that does not start with white space starts with its first word. -/
theorem prefix_of_words {line first : String} {rest : List String} {c : Char}
    (h : words line = first :: rest) (hhead : line.toList.head? = some c)
    (hc : isBlank c = false) : ∃ tail, line.toList = first.toList ++ tail := by
  obtain ⟨margin, tail, he, hm⟩ := eq_append_of_words h
  cases margin with
  | nil => exact ⟨tail, he⟩
  | cons b more =>
    rw [he] at hhead
    obtain rfl : b = c := Option.some.inj hhead
    rw [hm b List.mem_cons_self] at hc
    cases hc

/-- **Joining keeps words apart.** The words of texts joined by spaces are the words of each. -/
theorem wordsOf_intercalate : ∀ texts : List (List Char),
    wordsOf ([' '].intercalate texts) = texts.flatMap wordsOf
  | [] => rfl
  | [cs] => by simp
  | cs :: ds :: rest => by
    have ih := wordsOf_intercalate (ds :: rest)
    rw [List.intercalate_cons_cons, List.append_assoc, List.singleton_append,
      wordsOf_append_blank (by decide), ih]
    rfl

theorem toList_intercalate_space (ws : List String) :
    (String.intercalate " " ws).toList = [' '].intercalate (ws.map String.toList) :=
  String.toList_intercalate

/-- A word of a line is the only word in it. -/
theorem words_of_not_blank {w : String} (h : w.toList ≠ [] ∧ ∀ c ∈ w.toList, isBlank c = false) :
    words w = [w] := by
  rw [words, wordsOf_of_not_blank h.1 h.2, List.map_singleton, String.ofList_toList]

theorem words_intercalate_flatMap (texts : List String) :
    words (String.intercalate " " texts) = texts.flatMap words := by
  rw [words, toList_intercalate_space, wordsOf_intercalate, List.flatMap_map, List.map_flatMap]
  rfl

/-- **The words of a line of words are those words.** -/
theorem words_intercalate {ws : List String}
    (h : ∀ w ∈ ws, w.toList ≠ [] ∧ ∀ c ∈ w.toList, isBlank c = false) :
    words (String.intercalate " " ws) = ws := by
  have hword : ∀ w ∈ ws, words w = [w] := fun w hw => words_of_not_blank (h w hw)
  rw [words_intercalate_flatMap, List.flatMap_congr hword, List.flatMap_singleton']

end Measures.Text
