import Measures.Proofs.Query.Grammar
import Measures.Text.Lowercase

/-!
# The shape of a question, from left to right

The place of the connector is counted from the end of a phrase, whose words have been cut apart
before. Here the same texts are described from left to right, with nothing cut: words with a space
after each of them, the connector, a space, and the target in one word or two. There may be several
ways to read a text so, since other words can hold `to` or `in` as well. The one pass over the text
accepts it if there is any.

Nothing is asked of the words that are joined: they may be empty, hold spaces or line feeds, or have
characters that only lower-casing turns into letters.

* `phrase_iff_exists_cut`: a phrase as its words before the connector, the connector and the target;
* `phrase_text_iff`: the text of a phrase from left to right;
* `isWellFormed_iff_spelled`: the shape of joined words.
-/

namespace Measures.Query

open Text (IsLetters)

/-! ## 1. The words of a phrase -/

/-- One word, or two with a space between them. -/
def IsTarget (cs : List Char) : Prop :=
  IsLetters cs ∨ ∃ first second, cs = first ++ ' ' :: second ∧ IsLetters first ∧ IsLetters second

/-- A connector with `n` words after it, and one word or more before it. -/
theorem connectsAt_iff {ws : List (List Char)} {n : Nat} :
    (n + 2 ≤ ws.length ∧ ∃ w, ws[ws.length - (n + 1)]? = some w ∧ Connects w) ↔
      ∃ before connector after, ws = before ++ connector :: after ∧ before ≠ [] ∧
        Connects connector ∧ after.length = n := by
  constructor
  · rintro ⟨hl, w, hw, hc⟩
    obtain ⟨hlt, rfl⟩ := List.getElem?_eq_some_iff.mp hw
    refine ⟨ws.take (ws.length - (n + 1)), _, ws.drop (ws.length - (n + 1) + 1), ?_, ?_, hc, ?_⟩
    · rw [List.getElem_cons_drop, List.take_append_drop]
    · refine List.ne_nil_of_length_pos ?_
      rw [List.length_take]
      omega
    · rw [List.length_drop]
      omega
  · rintro ⟨before, connector, after, rfl, hb, hc, rfl⟩
    have hpos := List.length_pos_iff.mpr hb
    refine ⟨?_, connector, ?_, hc⟩
    · rw [List.length_append, List.length_cons]
      omega
    · rw [List.length_append, List.length_cons, Nat.add_sub_cancel,
        List.getElem?_append_right (Nat.le_refl _), Nat.sub_self, List.getElem?_cons_zero]

/-- **A phrase has its connector between one word or more and one word or two.** -/
theorem phrase_iff_exists_cut {ws : List (List Char)} : Phrase ws ↔
    (∀ w ∈ ws, IsLetters w) ∧ ∃ before connector after, ws = before ++ connector :: after ∧
      before ≠ [] ∧ Connects connector ∧ (after.length = 1 ∨ after.length = 2) := by
  constructor
  · refine fun h => ⟨h.letters, ?_⟩
    rcases h.connected with hc | hc
    · obtain ⟨before, connector, after, he, hb, hc, ha⟩ := connectsAt_iff.mp hc
      exact ⟨before, connector, after, he, hb, hc, .inl ha⟩
    · obtain ⟨before, connector, after, he, hb, hc, ha⟩ := connectsAt_iff.mp hc
      exact ⟨before, connector, after, he, hb, hc, .inr ha⟩
  · rintro ⟨hl, before, connector, after, he, hb, hc, ha | ha⟩
    · exact ⟨hl, .inl (connectsAt_iff.mpr ⟨before, connector, after, he, hb, hc, ha⟩)⟩
    · exact ⟨hl, .inr (connectsAt_iff.mpr ⟨before, connector, after, he, hb, hc, ha⟩)⟩

/-! ## 2. The text of a phrase -/

/-- Words before others are joined to them with a space after each. -/
theorem intercalate_append {vs : List (List Char)} (hv : vs ≠ []) : ∀ us : List (List Char),
    [' '].intercalate (us ++ vs) = us.flatMap (· ++ [' ']) ++ [' '].intercalate vs
  | [] => rfl
  | u :: us => by
    have hne : us ++ vs ≠ [] := fun h => hv (List.append_eq_nil_iff.mp h).2
    rw [List.cons_append, List.intercalate_cons_of_ne_nil hne, intercalate_append hv us,
      List.flatMap_cons]
    simp only [List.append_assoc]

/-- The text of a phrase is cut at its connector, as long as something comes after that. -/
theorem intercalate_cut {after : List (List Char)} (h : after ≠ []) (before : List (List Char))
    (connector : List Char) : [' '].intercalate (before ++ connector :: after) =
      before.flatMap (· ++ [' ']) ++ (connector ++ ' ' :: [' '].intercalate after) := by
  rw [intercalate_append (List.cons_ne_nil _ _), List.intercalate_cons_of_ne_nil h]
  simp only [List.append_assoc, List.singleton_append]

/-- A target has a word. -/
theorem ne_nil_of_length {ws : List (List Char)} (h : ws.length = 1 ∨ ws.length = 2) :
    ws ≠ [] := by
  rintro rfl
  simp at h

/-- A target is one word or two, joined. -/
theorem isTarget_iff {cs : List Char} : IsTarget cs ↔
    ∃ ws, cs = [' '].intercalate ws ∧ (ws.length = 1 ∨ ws.length = 2) ∧ ∀ w ∈ ws, IsLetters w := by
  constructor
  · rintro (h | ⟨first, second, rfl, hf, hs⟩)
    · exact ⟨[cs], List.intercalate_singleton.symm, .inl rfl, List.forall_mem_singleton.mpr h⟩
    · refine ⟨[first, second], by simp, .inr rfl, ?_⟩
      exact List.forall_mem_cons.mpr ⟨hf, List.forall_mem_singleton.mpr hs⟩
  · rintro ⟨ws, rfl, hlength | hlength, hl⟩
    · obtain ⟨w, rfl⟩ := List.length_eq_one_iff.mp hlength
      rw [List.intercalate_singleton]
      exact .inl (hl w List.mem_cons_self)
    · obtain ⟨first, second, rfl⟩ := List.length_eq_two.mp hlength
      refine .inr ⟨first, second, by simp, hl first List.mem_cons_self, ?_⟩
      exact hl second (List.mem_cons_of_mem _ List.mem_cons_self)

/-- **The text of a phrase, from left to right.** -/
theorem phrase_text_iff {cs : List Char} : (∃ ws, cs = [' '].intercalate ws ∧ Phrase ws) ↔
    ∃ words connector target, cs = words.flatMap (· ++ [' ']) ++ (connector ++ ' ' :: target) ∧
      words ≠ [] ∧ (∀ w ∈ words, IsLetters w) ∧ IsLetters connector ∧ Connects connector ∧
      IsTarget target := by
  constructor
  · rintro ⟨ws, rfl, h⟩
    obtain ⟨hl, before, connector, after, rfl, hb, hc, ha⟩ := phrase_iff_exists_cut.mp h
    obtain ⟨hbefore, hconnector, hafter⟩ :
        (∀ w ∈ before, IsLetters w) ∧ IsLetters connector ∧ ∀ w ∈ after, IsLetters w := by
      simpa only [List.forall_mem_append, List.forall_mem_cons] using hl
    exact ⟨before, connector, [' '].intercalate after, intercalate_cut (ne_nil_of_length ha) _ _,
      hb, hbefore, hconnector, hc, isTarget_iff.mpr ⟨after, rfl, ha, hafter⟩⟩
  · rintro ⟨words, connector, target, rfl, hw, hl, hconnector, hc, ht⟩
    obtain ⟨after, rfl, ha, hafter⟩ := isTarget_iff.mp ht
    have hletters : ∀ w ∈ words ++ connector :: after, IsLetters w :=
      List.forall_mem_append.mpr ⟨hl, List.forall_mem_cons.mpr ⟨hconnector, hafter⟩⟩
    exact ⟨words ++ connector :: after, (intercalate_cut (ne_nil_of_length ha) _ _).symm,
      phrase_iff_exists_cut.mpr ⟨hletters, words, connector, after, rfl, hw, hc, ha⟩⟩

/-! ## 3. The whole text -/

/-- What is looked at: the words joined by single spaces, in lower case. -/
theorem isWellFormed_eq_hasShape (tokens : List String) :
    isWellFormed tokens = hasShape (Text.lower (String.intercalate " " tokens)).toList := by
  rw [isWellFormed, Text.toList_lower, Text.toList_intercalate_space]

/-- **The shape of a question, spelled out.** Whatever the words are, joined by single spaces and
    lower-cased they have the shape of a question exactly if that text is, in some way, a number, a
    space, one word or more with a space after each, a connector, a space, and a target, with
    nothing left over. -/
theorem isWellFormed_iff_spelled (tokens : List String) : isWellFormed tokens = true ↔
    ∃ number words connector target,
      (Text.lower (String.intercalate " " tokens)).toList =
        number ++ ' ' :: (words.flatMap (· ++ [' ']) ++ (connector ++ ' ' :: target)) ∧
      IsNumber number ∧ words ≠ [] ∧ (∀ w ∈ words, IsLetters w) ∧
      IsLetters connector ∧ Connects connector ∧ IsTarget target := by
  rw [isWellFormed_eq_hasShape, hasShape_iff]
  constructor
  · rintro ⟨number, ws, he, hn, hp⟩
    obtain ⟨words, connector, target, ht, h⟩ := phrase_text_iff.mp ⟨ws, rfl, hp⟩
    exact ⟨number, words, connector, target, ht ▸ he, hn, h⟩
  · rintro ⟨number, words, connector, target, he, hn, h⟩
    obtain ⟨ws, hw, hp⟩ := phrase_text_iff.mpr ⟨words, connector, target, rfl, h⟩
    exact ⟨number, ws, hw ▸ he, hn, hp⟩

/-- Words that are joined themselves, a space inside the number, and `to` in two words, of which only
    the second can be the connector. -/
example : isWellFormed ["1 5", "tons", "TO degree", "C"] = true := by decide

end Measures.Query
