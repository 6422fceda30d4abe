import Measures.Proofs.Decimal.Reading
import Measures.Query.Shape

/-!
# The grammar behind the shape of a question

The shape of a question is decided in one pass over a text. Here it is said as a grammar instead: a
number, a space and a phrase, where the number and the phrase are described on their own and the
place where the one ends and the other begins is left open.

* `Phrase`: words of letters with a connector in one of its two places;
* `IsNumber`: what counts as a number before it is read as one;
* `hasShape_iff`: the pass accepts exactly the texts of the grammar. The number may be split in
  several ways (`155` is digits, and also digits, any character and digits), the pass takes one.
-/

namespace Measures.Query

open Text (IsDigits IsLetters pieces)
open Decimal (IsWhole)

/-! ## 1. Phrases -/

/-- A text that holds `to` or `in`. -/
def Connects (w : List Char) : Prop := ['t', 'o'] <:+: w ∨ ['i', 'n'] <:+: w

/-- Words of letters, of which the last but one of three or more, or the last but two of four or
    more, holds `to` or `in`. -/
structure Phrase (ws : List (List Char)) : Prop where
  letters : ∀ w ∈ ws, IsLetters w
  connected :
    (3 ≤ ws.length ∧ ∃ w, ws[ws.length - 2]? = some w ∧ Connects w) ∨
      (4 ≤ ws.length ∧ ∃ w, ws[ws.length - 3]? = some w ∧ Connects w)

theorem isWord_iff (w : List Char) : isWord w = true ↔ IsLetters w := by
  simp [isWord, Text.AllOf, List.all_eq_true]

theorem hasPair_iff (a b : Char) : ∀ w : List Char, hasPair a b w = true ↔ [a, b] <:+: w
  | [] => by simp [hasPair]
  | [c] => by
    simp only [hasPair, Bool.false_eq_true, false_iff]
    exact fun h => absurd h.length_le (by simp)
  | c :: d :: rest => by
    have ih := hasPair_iff a b (d :: rest)
    have hcons := @List.infix_cons_iff _ [a, b] c (d :: rest)
    rw [hcons, ← ih, List.cons_prefix_cons, List.cons_prefix_cons, hasPair, Bool.or_eq_true,
      Bool.and_eq_true, decide_eq_true_eq, decide_eq_true_eq, eq_comm (a := c), eq_comm (a := d)]
    simp

theorem isConnector_iff (w : List Char) : isConnector w = true ↔ Connects w := by
  simp only [isConnector, Bool.or_eq_true, hasPair_iff, Connects]

/-- The two places for a connector, counted from the end. -/
theorem connects_iff : ∀ rs : List (List Char), connects rs = true ↔
    (3 ≤ rs.length ∧ ∃ w, rs[1]? = some w ∧ Connects w) ∨
      (4 ≤ rs.length ∧ ∃ w, rs[2]? = some w ∧ Connects w)
  | [] => by simp [connects]
  | [_] => by simp [connects]
  | [_, _] => by simp [connects]
  | [_, second, _] => by simp [connects, isConnector_iff]
  | _ :: second :: third :: r :: rest => by simp [connects, isConnector_iff]

theorem isPhrase_iff (ws : List (List Char)) : isPhrase ws = true ↔ Phrase ws := by
  have hplace : ∀ {n : Nat}, n + 2 ≤ ws.length → ws.reverse[n]? = ws[ws.length - (n + 1)]? := by
    intro n hn
    rw [List.getElem?_reverse (by omega), Nat.sub_sub, Nat.add_comm 1 n]
  have hconn : connects ws.reverse = true ↔
      (3 ≤ ws.length ∧ ∃ w, ws[ws.length - 2]? = some w ∧ Connects w) ∨
        (4 ≤ ws.length ∧ ∃ w, ws[ws.length - 3]? = some w ∧ Connects w) := by
    rw [connects_iff, List.length_reverse]
    refine or_congr (and_congr_right fun h => ?_) (and_congr_right fun h => ?_)
    · rw [hplace (n := 1) (by omega)]
    · rw [hplace (n := 2) (by omega)]
  rw [isPhrase, Bool.and_eq_true, List.all_eq_true, hconn]
  constructor
  · exact fun ⟨hl, hc⟩ => ⟨fun w hw => (isWord_iff w).mp (hl w hw), hc⟩
  · exact fun ⟨hl, hc⟩ => ⟨fun w hw => (isWord_iff w).mpr (hl w hw), hc⟩

theorem Phrase.length_le {ws : List (List Char)} (h : Phrase ws) : 3 ≤ ws.length := by
  rcases h.connected with ⟨hl, _⟩ | ⟨hl, _⟩ <;> omega

theorem Phrase.ne_nil {ws : List (List Char)} (h : Phrase ws) : ws ≠ [] := by
  rintro rfl
  exact absurd h.length_le (by decide)

/-- No word of a phrase holds a space. -/
theorem Phrase.not_space {ws : List (List Char)} (h : Phrase ws) :
    ∀ w ∈ ws, ∀ c ∈ w, decide (c = ' ') = false := by
  intro w hw c hc
  refine decide_eq_false ?_
  rintro rfl
  exact (h.letters w hw).not_mem (by decide) hc

/-- **A text is a phrase if it is the words of one, joined by single spaces.** -/
theorem phraseText_iff (cs : List Char) :
    phraseText cs = true ↔ ∃ ws, cs = [' '].intercalate ws ∧ Phrase ws := by
  unfold phraseText
  rw [isPhrase_iff]
  constructor
  · exact fun h => ⟨_, (Text.intercalate_pieces ' ' cs).symm, h⟩
  · intro ⟨ws, he, h⟩
    rw [he]
    rwa [Text.pieces_intercalate (by decide) h.ne_nil h.not_space]

/-! ## 2. Numbers -/

/-- A whole number, possibly followed by any one character but a line feed, and digits. -/
def IsNumber (cs : List Char) : Prop :=
  IsWhole cs ∨ ∃ whole gap places, cs = whole ++ gap :: places ∧
    IsWhole whole ∧ gap ≠ '\n' ∧ IsDigits places

/-- A text is its minus, if it has one, and the rest. -/
theorem eq_dropMinus (cs : List Char) : cs = dropMinus cs ∨ cs = '-' :: dropMinus cs := by
  unfold dropMinus
  split
  · exact .inr rfl
  · exact .inl rfl

theorem dropMinus_digits {ds rest : List Char} (h : IsDigits ds) :
    dropMinus (ds ++ rest) = ds ++ rest := by
  obtain ⟨c, more, rfl, hc⟩ := h.exists_cons
  unfold dropMinus
  split
  · rename_i he
    exact absurd (List.cons.inj he).1 (Text.ne_of_isDigit hc (by decide))
  · rfl

/-! ## 3. The pass over a text -/

/-- The digits inside the number, a space and a phrase. -/
theorem digitsThenPhrase_iff (cs : List Char) : digitsThenPhrase cs = true ↔
    ∃ ds ws, cs = ds ++ ' ' :: [' '].intercalate ws ∧ IsDigits ds ∧ Phrase ws := by
  unfold digitsThenPhrase
  rw [Bool.and_eq_true, decide_eq_true_eq]
  constructor
  · intro ⟨hne, hrest⟩
    split at hrest
    · rename_i rest hd
      obtain ⟨ws, rfl, hw⟩ := (phraseText_iff rest).mp hrest
      refine ⟨_, ws, ?_, Text.allOf_takeWhile hne, hw⟩
      rw [← hd, List.takeWhile_append_dropWhile]
    · cases hrest
  · rintro ⟨ds, ws, rfl, hd, hw⟩
    have hspace : Char.isDigit ' ' = false := by decide
    rw [Text.takeWhile_append_stop hd.2 hspace, Text.dropWhile_append_stop hd.2 hspace]
    exact ⟨hd.1, (phraseText_iff _).mpr ⟨ws, rfl, hw⟩⟩

/-- After the first digits: a space and a phrase, or any character and more digits before them. -/
theorem afterDigits_iff (cs : List Char) : afterDigits cs = true ↔
    (∃ ws, cs = ' ' :: [' '].intercalate ws ∧ Phrase ws) ∨
      ∃ gap places ws, cs = gap :: (places ++ ' ' :: [' '].intercalate ws) ∧
        gap ≠ '\n' ∧ IsDigits places ∧ Phrase ws := by
  cases cs with
  | nil => simp [afterDigits]
  | cons c rest =>
    simp only [afterDigits, Bool.or_eq_true, Bool.and_eq_true, decide_eq_true_eq, phraseText_iff,
      digitsThenPhrase_iff, List.cons.injEq]
    constructor
    · intro h
      rcases h with ⟨rfl, ws, rfl, hw⟩ | ⟨hc, ds, ws, rfl, hd, hw⟩
      · exact .inl ⟨ws, ⟨rfl, rfl⟩, hw⟩
      · exact .inr ⟨c, ds, ws, ⟨rfl, rfl⟩, hc, hd, hw⟩
    · intro h
      rcases h with ⟨ws, ⟨rfl, rfl⟩, hw⟩ | ⟨gap, ds, ws, ⟨rfl, rfl⟩, hc, hd, hw⟩
      · exact .inl ⟨rfl, ws, rfl, hw⟩
      · exact .inr ⟨hc, ds, ws, rfl, hd, hw⟩

/-- The pass takes all digits it finds. Where the character inside the number is a digit itself,
    that is the whole number, and what follows is the space. -/
theorem afterDigits_dropWhile {ds tail : List Char} (hd : IsDigits ds)
    (h : afterDigits tail = true) : (ds ++ tail).takeWhile Char.isDigit ≠ [] ∧
      afterDigits ((ds ++ tail).dropWhile Char.isDigit) = true := by
  obtain ⟨d, more, rfl, hc⟩ := hd.exists_cons
  refine ⟨by simp [hc], ?_⟩
  have hspace : Char.isDigit ' ' = false := by decide
  rcases (afterDigits_iff tail).mp h with ⟨ws, rfl, hw⟩ | ⟨gap, places, ws, rfl, hg, hp, hw⟩
  · rwa [Text.dropWhile_append_stop hd.2 hspace]
  · by_cases hgap : gap.isDigit = true
    · -- the pass reads on through the character and the digits after it
      have hall : ∀ c ∈ (d :: more) ++ gap :: places, c.isDigit = true := by
        intro c hm
        rcases List.mem_append.mp hm with hm | hm
        · exact hd.2 c hm
        · rcases List.mem_cons.mp hm with rfl | hm
          · exact hgap
          · exact hp.2 c hm
      have he : (d :: more) ++ gap :: (places ++ ' ' :: [' '].intercalate ws) =
          ((d :: more) ++ gap :: places) ++ ' ' :: [' '].intercalate ws := by simp
      rw [he, Text.dropWhile_append_stop hall hspace]
      exact (afterDigits_iff _).mpr (.inl ⟨ws, rfl, hw⟩)
    · rwa [Text.dropWhile_append_stop hd.2 (by simpa using hgap)]

/-- The pass reads a whole number and leaves it to `afterDigits` to judge what follows. -/
theorem hasShape_iff_whole (cs : List Char) : hasShape cs = true ↔
    ∃ whole tail, cs = whole ++ tail ∧ IsWhole whole ∧ afterDigits tail = true := by
  unfold hasShape
  rw [Bool.and_eq_true, decide_eq_true_eq]
  constructor
  · intro ⟨hne, hafter⟩
    have hd := Text.allOf_takeWhile hne
    have hcut := List.takeWhile_append_dropWhile (p := Char.isDigit) (l := dropMinus cs)
    rcases eq_dropMinus cs with he | he
    · exact ⟨_, _, he.trans hcut.symm, .inl hd, hafter⟩
    · exact ⟨_, _, he.trans (congrArg ('-' :: ·) hcut.symm), .inr ⟨_, rfl, hd⟩, hafter⟩
  · intro ⟨whole, tail, he, hw, ht⟩
    subst he
    rcases hw with hd | ⟨ds, rfl, hd⟩
    · rw [dropMinus_digits hd]
      exact afterDigits_dropWhile hd ht
    · exact afterDigits_dropWhile hd ht

/-- **The pass accepts exactly the texts of the grammar.** -/
theorem hasShape_iff (cs : List Char) : hasShape cs = true ↔
    ∃ number ws, cs = number ++ ' ' :: [' '].intercalate ws ∧ IsNumber number ∧ Phrase ws := by
  rw [hasShape_iff_whole]
  constructor
  · intro ⟨whole, tail, he, hw, ht⟩
    subst he
    rcases (afterDigits_iff tail).mp ht with ⟨ws, rfl, hp⟩ | ⟨gap, places, ws, rfl, hg, hd, hp⟩
    · exact ⟨whole, ws, rfl, .inl hw, hp⟩
    · exact ⟨whole ++ gap :: places, ws, by simp, .inr ⟨whole, gap, places, rfl, hw, hg, hd⟩, hp⟩
  · intro ⟨number, ws, he, hn, hp⟩
    subst he
    rcases hn with hw | ⟨whole, gap, places, rfl, hw, hg, hd⟩
    · exact ⟨number, _, rfl, hw, (afterDigits_iff _).mpr (.inl ⟨ws, rfl, hp⟩)⟩
    · have ht := (afterDigits_iff _).mpr (.inr ⟨gap, places, ws, rfl, hg, hd, hp⟩)
      exact ⟨whole, _, by simp, hw, ht⟩

end Measures.Query
