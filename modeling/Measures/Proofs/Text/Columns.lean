import Mathlib.Data.List.Infix
import Measures.Proofs.Text.Ascii
import Measures.Proofs.Text.Words

/-!
# Reading what is set out in lines and columns

A text that is set out for the eye can be read back if nothing in it is taken for a border: a break
for the end of a line, a space for the end of a column, a comma with a space after it for the end of
an item.

* `LineBreaks`, `LineBreaks.lines`: what breaks a text into lines, and the lines;
* `takeField`: the next column, which holds no space;
* `commaItems`: the items of a list;
* `lines_join`, `takeField_append`, `commaItems_intercalate`: what has been set out is read back.
-/

namespace Measures.Text

/-! ## 1. Lines -/

/-- What breaks a text into lines: the line feed, and perhaps other white space, but no space. -/
structure LineBreaks where
  breaks : Char → Bool
  lineFeed : breaks '\n' = true
  blank : ∀ c, breaks c = true → isBlank c = true
  space : breaks ' ' = false

/-- All characters that can break a text into lines. -/
def lineBreakChars : List Char :=
  ['\n', '\r', '\x0b', '\x0c', '\x1c', '\x1d', '\x1e', '\u0085', '\u2028', '\u2029']

namespace LineBreaks

/-- A text is broken into lines wherever it can be. -/
def all : LineBreaks where
  breaks c := decide (c ∈ lineBreakChars)
  lineFeed := by decide
  blank := fun c h => forall_of_all (fun c => isBlank c = true) (by decide) (of_decide_eq_true h)
  space := by decide

/-- The lines of a text. What follows the last break is a line only if there is anything in it. -/
def lines (b : LineBreaks) (text : String) : List String :=
  let cut := pieces b.breaks text.toList
  (if cut.getLast? = some [] then cut.dropLast else cut).map String.ofList

/-- No line break stands in the text. -/
def Unbroken (b : LineBreaks) (text : String) : Prop := ∀ c ∈ text.toList, b.breaks c = false

instance (b : LineBreaks) (text : String) : Decidable (b.Unbroken text) :=
  decidable_of_iff (text.toList.all (fun c => !b.breaks c) = true) (by simp [Unbroken])

variable {b : LineBreaks}

theorem unbroken_of_not_blank {text : String} (h : ∀ c ∈ text.toList, isBlank c = false) :
    b.Unbroken text := by
  intro c hc
  refine Bool.eq_false_iff.mpr fun hb => ?_
  have hblank := b.blank c hb
  rw [h c hc] at hblank
  cases hblank

theorem unbroken_append_iff {first second : String} :
    b.Unbroken (first ++ second) ↔ b.Unbroken first ∧ b.Unbroken second := by
  rw [Unbroken, String.toList_append, List.forall_mem_append]
  rfl

/-- Texts without breaks are joined to one without breaks. -/
theorem unbroken_intercalate {glue : String} (hg : b.Unbroken glue) : ∀ {texts : List String},
    (∀ t ∈ texts, b.Unbroken t) → b.Unbroken (String.intercalate glue texts)
  | [], _ => fun _ hc => absurd hc List.not_mem_nil
  | [t], h => by
    rw [String.intercalate_singleton]
    exact h t List.mem_cons_self
  | t :: u :: rest, h => by
    obtain ⟨ht, hrest⟩ := List.forall_mem_cons.mp h
    rw [String.intercalate_cons_cons, unbroken_append_iff, unbroken_append_iff]
    exact ⟨⟨ht, hg⟩, unbroken_intercalate hg hrest⟩

theorem pieces_lineFeeds : ∀ {texts : List String}, (∀ t ∈ texts, b.Unbroken t) →
    pieces b.breaks (String.join (texts.map (· ++ "\n"))).toList = texts.map String.toList ++ [[]]
  | [], _ => by simp [pieces]
  | t :: rest, h => by
    obtain ⟨ht, hrest⟩ := List.forall_mem_cons.mp h
    have hcut : (String.join ((t :: rest).map (· ++ "\n"))).toList =
        t.toList ++ '\n' :: (String.join (rest.map (· ++ "\n"))).toList := by
      rw [List.map_cons, String.join_cons, String.toList_append, String.toList_append,
        List.append_assoc]
      rfl
    rw [hcut, pieces_append_sep b.lineFeed, pieces_of_not_sep ht, pieces_lineFeeds hrest]
    rfl

/-- **Lines that are ended by line feeds are the lines of the text.** -/
theorem lines_join {texts : List String} (h : ∀ t ∈ texts, b.Unbroken t) :
    b.lines (String.join (texts.map (· ++ "\n"))) = texts := by
  simp only [lines, pieces_lineFeeds h]
  rw [if_pos List.getLast?_concat, List.dropLast_concat, List.map_map]
  exact List.map_id'' (fun t => String.ofList_toList) texts

end LineBreaks

/-! ## 2. Columns -/

/-- The next column of a line, which ends at a space, and what follows it. Spaces in front of it are
    passed over. -/
def takeField (cs : List Char) : List Char × List Char :=
  ((cs.dropWhile (· = ' ')).takeWhile (· ≠ ' '), (cs.dropWhile (· = ' ')).dropWhile (· ≠ ' '))

/-- Spaces are passed over up to the first other character. -/
theorem dropWhile_spaces {gap cs : List Char} (hg : ∀ c ∈ gap, c = ' ') (hc : cs.head? ≠ some ' ') :
    (gap ++ cs).dropWhile (· = ' ') = cs := by
  rw [List.dropWhile_append_of_pos fun c hm => decide_eq_true (hg c hm)]
  cases cs with
  | nil => rfl
  | cons c rest =>
    refine List.dropWhile_cons_of_neg ?_
    simpa using hc

/-- **The next column is read back**, whatever spaces stand before it. -/
theorem takeField_append {gap field : List Char} (hg : ∀ c ∈ gap, c = ' ')
    (hf : AllOf (· ≠ ' ') field) (rest : List Char) :
    takeField (gap ++ (field ++ ' ' :: rest)) = (field, ' ' :: rest) := by
  have hhead : (field ++ ' ' :: rest).head? ≠ some ' ' := by
    obtain ⟨c, more, rfl, hc⟩ := hf.exists_cons
    simpa using hc
  rw [takeField, dropWhile_spaces hg hhead, takeWhile_append_stop hf.2 (by decide),
    dropWhile_append_stop hf.2 (by decide)]

/-! ## 3. Lists -/

/-- The items of a list, which end wherever a comma and a space stand. -/
def commaItems : List Char → List (List Char)
  | [] => [[]]
  | ',' :: ' ' :: rest => [] :: commaItems rest
  | c :: rest =>
    match commaItems rest with
    | [] => [[c]]
    | item :: more => (c :: item) :: more

/-- A character that does not stand at such a place belongs to the first item. -/
theorem commaItems_cons {c : Char} {rest item : List Char} {more : List (List Char)}
    (h : ¬ [',', ' '] <+: c :: rest) (hr : commaItems rest = item :: more) :
    commaItems (c :: rest) = (c :: item) :: more := by
  unfold commaItems
  split
  · rename_i he
    cases he
  · rename_i he
    obtain ⟨rfl, rfl⟩ := List.cons.inj he
    exact absurd ⟨_, rfl⟩ h
  · rename_i he
    obtain ⟨rfl, rfl⟩ := List.cons.inj he
    rw [hr]

/-- An item without such a place in it is read whole. -/
theorem commaItems_single : ∀ {us : List Char}, ¬ [',', ' '] <:+: us → commaItems us = [us]
  | [], _ => rfl
  | _ :: _, h =>
    commaItems_cons (fun hp => h hp.isInfix)
      (commaItems_single fun hi => h (List.infix_cons hi))

/-- **An item ends at the first such place**, even if a comma ends the item itself. -/
theorem commaItems_append : ∀ {us : List Char}, ¬ [',', ' '] <:+: us → ∀ vs,
    commaItems (us ++ ',' :: ' ' :: vs) = us :: commaItems vs
  | [], _, _ => by rw [List.nil_append, commaItems]
  | c :: rest, h, vs => by
    have hrest : ¬ [',', ' '] <:+: rest := fun hi => h (List.infix_cons hi)
    refine commaItems_cons ?_ (commaItems_append hrest vs)
    intro hp
    obtain ⟨rfl, hsecond⟩ := List.cons_prefix_cons.mp hp
    -- a space in the second place would have to be the comma after the item
    cases rest with
    | nil => exact absurd (List.cons_prefix_cons.mp hsecond).1 (by decide)
    | cons d rest =>
      obtain ⟨rfl, _⟩ := List.cons_prefix_cons.mp hsecond
      exact h ⟨[], rest, rfl⟩

/-- **The items of a list are read back.** -/
theorem commaItems_intercalate : ∀ {ws : List (List Char)}, ws ≠ [] →
    (∀ w ∈ ws, ¬ [',', ' '] <:+: w) → commaItems ([',', ' '].intercalate ws) = ws
  | [], h, _ => absurd rfl h
  | [w], _, h => by
    rw [List.intercalate_singleton, commaItems_single (h w List.mem_cons_self)]
  | w :: v :: vs, _, h => by
    obtain ⟨hw, hrest⟩ := List.forall_mem_cons.mp h
    rw [List.intercalate_cons_cons, List.append_assoc]
    exact (commaItems_append hw _).trans
      (congrArg (w :: ·) (commaItems_intercalate (List.cons_ne_nil v vs) hrest))

/-- A list starts with its first item, or with a comma. -/
theorem head?_intercalate_ne : ∀ {ws : List (List Char)}, (∀ w ∈ ws, w.head? ≠ some ' ') →
    ([',', ' '].intercalate ws).head? ≠ some ' '
  | [], _ => nofun
  | [w], h => by
    rw [List.intercalate_singleton]
    exact h w List.mem_cons_self
  | w :: v :: vs, h => by
    have hw := h w List.mem_cons_self
    rw [List.intercalate_cons_cons, List.append_assoc]
    cases w with
    | nil => exact ne_of_beq_false rfl
    | cons c rest => exact hw

end Measures.Text
