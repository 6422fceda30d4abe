import Measures.Catalog.Standard
import Measures.Command
import Measures.Proofs.Catalog.Acceptance
import Measures.Proofs.Decimal.RoundTrip
import Measures.Proofs.Text.Columns

/-!
# Reading the listing back

The listing tells of each measure its key, the name of its category, its scale and its spellings, as
a plain line or as a row of a grid. The columns of a line are filled up with spaces to a width that
their texts may well exceed, and the spellings, which may hold spaces themselves, are strung together
with commas. Still nothing is lost: the line can be read back, column by column and spelling by
spelling.

* `Listed`, `Listed.ofLine`: what a line tells;
* `Measure.Legible`: what is asked of a measure for that;
* `Measure.Legible.ofLine_line`: the line of a measure is read back;
* `Measure.Legible.unbroken_line`: it is a single line;
* `Command.list_readable`: the listing of a catalog in its two forms.
-/

namespace Measures

open Text (AllOf LineBreaks commaItems isBlank takeField)
open Text.LineBreaks (unbroken_append_iff unbroken_intercalate unbroken_of_not_blank)

/-! ## 1. What a line tells -/

/-- What the listing tells of a measure. -/
structure Listed where
  key : String
  category : String
  scale : String
  aliases : List String
deriving DecidableEq

/-- What a line tells: three columns, and after the spaces that follow them a list. -/
def Listed.ofLine (line : String) : Listed :=
  let first := takeField line.toList
  let second := takeField first.2
  let third := takeField second.2
  { key := String.ofList first.1
    category := String.ofList second.1
    scale := String.ofList third.1
    aliases := (commaItems (third.2.dropWhile (· = ' '))).map String.ofList }

/-- The texts of a row, the spellings strung together. -/
def Listed.cells (l : Listed) : List String :=
  [l.key, l.category, l.scale, String.intercalate ", " l.aliases]

/-- A text without white space, which stands in a column of its own. -/
def IsColumn (text : String) : Prop := AllOf (fun c => !isBlank c) text.toList

instance (text : String) : Decidable (IsColumn text) :=
  inferInstanceAs (Decidable (AllOf _ text.toList))

namespace Measure

/-- What the listing should tell of a measure. -/
def listed (m : Measure) : Listed :=
  ⟨m.key, Text.trimmed m.category.label, m.scaleText, m.aliases⟩

/-- What is asked of a measure for its line to be read: a key, and no white space in it; a category
    that has a name; and in the spellings nothing that ends a spelling or the line, nor a space in
    front. The spellings may hold spaces and commas otherwise. -/
structure Legible (b : LineBreaks) (m : Measure) : Prop where
  key : IsColumn m.key
  category_ne : m.category ≠ .unknown
  aliases_single : ∀ a ∈ m.aliases, ¬ [',', ' '] <:+: a.toList
  aliases_unbroken : ∀ a ∈ m.aliases, b.Unbroken a
  aliases_head : ∀ a ∈ m.aliases, a.toList.head? ≠ some ' '

end Measure

/-! ## 2. The columns of a line -/

theorem IsColumn.allOf {text : String} (h : IsColumn text) : AllOf (· ≠ ' ') text.toList :=
  ⟨h.1, fun _ hc => decide_eq_true fun hs => AllOf.not_mem h (by decide) (hs ▸ hc)⟩

/-- The name of a category without its space is a column. -/
theorem isColumn_label : ∀ {category : Category}, category ≠ .unknown →
    IsColumn (Text.trimmed category.label)
  | .length, _ => by decide
  | .weight, _ => by decide
  | .temperature, _ => by decide
  | .unknown, h => absurd rfl h

/-- So is a scale, and the word that stands for none. -/
theorem isColumn_scaleText (m : Measure) : IsColumn m.scaleText := by
  unfold Measure.scaleText
  split
  · refine ⟨Decimal.write_ne_nil _ _, fun c hc => ?_⟩
    exact congrArg not (Decimal.isBlank_of_mem_write hc)
  · decide

/-- A column that is filled up and the space after it are its text, a space, and perhaps more. -/
theorem exists_gap (width : Nat) (text rest : String) : ∃ gap, (∀ c ∈ gap, c = ' ') ∧
    (padRight width text ++ " " ++ rest).toList = text.toList ++ ' ' :: (gap ++ rest.toList) := by
  refine ⟨List.replicate (width - text.length) ' ', fun c => List.eq_of_mem_replicate, ?_⟩
  have hturn : List.replicate (width - text.length) ' ' ++ [' '] =
      ' ' :: List.replicate (width - text.length) ' ' := List.replicate_succ'.symm
  calc (padRight width text ++ " " ++ rest).toList
      = text.toList ++ (List.replicate (width - text.length) ' ' ++ [' ']) ++ rest.toList := by
        simp [padRight]
    _ = text.toList ++ ' ' :: (List.replicate (width - text.length) ' ' ++ rest.toList) := by
        rw [hturn, List.append_assoc, List.cons_append]

/-- **The columns of a line are read back**, however long their texts are. -/
theorem Listed.ofLine_columns {first second third : String} (hf : IsColumn first)
    (hs : IsColumn second) (ht : IsColumn third) {last : String}
    (hl : last.toList.head? ≠ some ' ') : ofLine (columns first second third last) =
      ⟨first, second, third, (commaItems last.toList).map String.ofList⟩ := by
  obtain ⟨gap₃, h₃, hthird⟩ := exists_gap 10 third last
  obtain ⟨gap₂, h₂, hsecond⟩ := exists_gap 12 second (padRight 10 third ++ " " ++ last)
  obtain ⟨gap₁, h₁, hfirst⟩ :=
    exists_gap 12 first (padRight 12 second ++ " " ++ (padRight 10 third ++ " " ++ last))
  have hline : (columns first second third last).toList = first.toList ++ ' ' ::
      (gap₁ ++ (second.toList ++ ' ' :: (gap₂ ++ (third.toList ++ ' ' :: (gap₃ ++ last.toList))))) := by
    rw [← hthird, ← hsecond, ← hfirst, columns]
    simp only [String.append_assoc]
  have hspace : ∀ {gap : List Char}, (∀ c ∈ gap, c = ' ') → ∀ c ∈ ' ' :: gap, c = ' ' :=
    fun hg => List.forall_mem_cons.mpr ⟨rfl, hg⟩
  have hstart : ∀ c ∈ ([] : List Char), c = ' ' := nofun
  have hread₁ := Text.takeField_append hstart hf.allOf
    (gap₁ ++ (second.toList ++ ' ' :: (gap₂ ++ (third.toList ++ ' ' :: (gap₃ ++ last.toList)))))
  have hread₂ := Text.takeField_append (hspace h₁) hs.allOf
    (gap₂ ++ (third.toList ++ ' ' :: (gap₃ ++ last.toList)))
  have hread₃ := Text.takeField_append (hspace h₂) ht.allOf (gap₃ ++ last.toList)
  have hlast := Text.dropWhile_spaces (hspace h₃) hl
  rw [List.nil_append] at hread₁
  rw [List.cons_append] at hread₂ hread₃ hlast
  simp only [ofLine, hline, hread₁, hread₂, hread₃, hlast, String.ofList_toList]

/-! ## 3. The line of a measure -/

section

variable {b : LineBreaks} {m : Measure}

/-- The spellings strung together have no space in front. -/
theorem Measure.Legible.head?_intercalate (h : m.Legible b) :
    (String.intercalate ", " m.aliases).toList.head? ≠ some ' ' := by
  rw [String.toList_intercalate]
  refine Text.head?_intercalate_ne fun w hw => ?_
  obtain ⟨a, ha, rfl⟩ := List.mem_map.mp hw
  exact h.aliases_head a ha

/-- **The line of a measure is read back.** -/
theorem Measure.Legible.ofLine_line (h : m.Legible b) (hn : m.aliases ≠ []) :
    Listed.ofLine m.row.line = m.listed := by
  have hitems : commaItems (String.intercalate ", " m.aliases).toList =
      m.aliases.map String.toList := by
    rw [String.toList_intercalate]
    refine Text.commaItems_intercalate (fun he => hn (List.map_eq_nil_iff.mp he)) fun w hw => ?_
    obtain ⟨a, ha, rfl⟩ := List.mem_map.mp hw
    exact h.aliases_single a ha
  have hback : (m.aliases.map String.toList).map String.ofList = m.aliases := by
    rw [List.map_map]
    exact List.map_id'' (fun a => String.ofList_toList) m.aliases
  show Listed.ofLine (columns m.key (Text.trimmed m.category.label) m.scaleText
    (String.intercalate ", " m.aliases)) = m.listed
  rw [Listed.ofLine_columns h.key (isColumn_label h.category_ne) (isColumn_scaleText m)
    h.head?_intercalate, hitems, hback]
  rfl

/-! ## 4. The lines of the listing -/

theorem unbroken_space : b.Unbroken " " := List.forall_mem_singleton.mpr b.space

theorem unbroken_padRight {text : String} (h : b.Unbroken text) (width : Nat) :
    b.Unbroken (padRight width text) := by
  refine unbroken_append_iff.mpr ⟨h, fun c hc => ?_⟩
  rw [String.toList_ofList] at hc
  rw [List.eq_of_mem_replicate hc, b.space]

theorem unbroken_columns {first second third last : String} (hf : b.Unbroken first)
    (hs : b.Unbroken second) (ht : b.Unbroken third) (hl : b.Unbroken last) :
    b.Unbroken (columns first second third last) := by
  simp only [columns, unbroken_append_iff]
  exact ⟨⟨⟨⟨⟨⟨unbroken_padRight hf 12, unbroken_space⟩, unbroken_padRight hs 12⟩, unbroken_space⟩,
    unbroken_padRight ht 10⟩, unbroken_space⟩, hl⟩

theorem IsColumn.unbroken {text : String} (h : IsColumn text) : b.Unbroken text :=
  unbroken_of_not_blank fun c hc => by simpa using h.2 c hc

theorem unbroken_head : b.Unbroken (columns "Unit" "Category" "Scale" "Aliases") := by
  have hunit : IsColumn "Unit" := by decide
  have hcategory : IsColumn "Category" := by decide
  have hscale : IsColumn "Scale" := by decide
  have haliases : IsColumn "Aliases" := by decide
  exact unbroken_columns hunit.unbroken hcategory.unbroken hscale.unbroken haliases.unbroken

theorem unbroken_rule : b.Unbroken (String.ofList (List.replicate 72 '-')) := by
  refine unbroken_of_not_blank fun c hc => ?_
  rw [String.toList_ofList] at hc
  rw [List.eq_of_mem_replicate hc]
  decide

/-- **The line of a measure is a single line.** -/
theorem Measure.Legible.unbroken_line (h : m.Legible b) : b.Unbroken m.row.line := by
  have hglue : b.Unbroken ", " := by
    have hcomma : IsColumn "," := by decide
    exact unbroken_append_iff.mpr ⟨hcomma.unbroken, unbroken_space⟩
  exact unbroken_columns h.key.unbroken (isColumn_label h.category_ne).unbroken
    (isColumn_scaleText m).unbroken (unbroken_intercalate hglue h.aliases_unbroken)

/-- **The plain listing is broken into its own lines** and no others. -/
theorem lines_plainListing {c : Catalog} (h : ∀ m ∈ c.measures, m.Legible b) :
    b.lines (unlines (plainListing c.rows)) = plainListing c.rows := by
  have hhead : ∀ line ∈ [columns "Unit" "Category" "Scale" "Aliases",
      String.ofList (List.replicate 72 '-')], b.Unbroken line :=
    List.forall_mem_cons.mpr ⟨unbroken_head, List.forall_mem_singleton.mpr unbroken_rule⟩
  have hrows : ∀ line ∈ c.rows.map Row.line, b.Unbroken line := by
    intro line hl
    obtain ⟨r, hr, rfl⟩ := List.mem_map.mp hl
    obtain ⟨m, hm, rfl⟩ := List.mem_map.mp hr
    exact (h m hm).unbroken_line
  have hlast : ∀ line ∈ [""], b.Unbroken line :=
    List.forall_mem_singleton.mpr fun _ hc => absurd hc List.not_mem_nil
  exact Text.LineBreaks.lines_join
    (List.forall_mem_append.mpr ⟨List.forall_mem_append.mpr ⟨hhead, hrows⟩, hlast⟩)

end

/-! ## 5. The two forms of the listing -/

/-- **Nothing is lost in the listing of a catalog.** However lines are broken, the plain listing has
    its head, the rule, one line for each measure in the order of the catalog, and an empty line; and
    the line of a measure tells its key, the name of its category, its scale and all its spellings.
    The grid has a row with the same texts for each measure, in the same order. -/
theorem Command.list_readable {ms : List Measure} {c : Catalog} (h : Catalog.ofList? ms = .ok c)
    (b : LineBreaks) (hm : ∀ m ∈ ms, m.Legible b) :
    let o := Command.list c
    ∃ lines grid, o.ending = .exit success ∧
      b.lines (plainText .output o.items) =
        columns "Unit" "Category" "Scale" "Aliases" :: String.ofList (List.replicate 72 '-') ::
          lines ++ [""] ∧
      lines.map Listed.ofLine = ms.map Measure.listed ∧
      events o.items =
        [.print .output true [], .print .output true [.grid grid], .print .output true []] ∧
      grid.rows = ms.map fun m => m.listed.cells := by
  obtain rfl := Catalog.ofList?_eq_ok_iff.mp h
  intro o
  refine ⟨c.rows.map Row.line, .ofRows c.rows, rfl, ?_, ?_, rfl, ?_⟩
  · have htext : plainText .output o.items = unlines (plainListing c.rows) := by
      show String.join [unlines (plainListing c.rows)] = _
      rw [String.join_cons, String.join_nil, String.append_empty]
    rw [htext, lines_plainListing hm]
    rfl
  · rw [Catalog.rows, List.map_map, List.map_map]
    exact List.map_congr_left fun m hmem => (hm m hmem).ofLine_line (c.named m hmem)
  · show (c.measures.map Measure.row).map _ = _
    rw [List.map_map]
    rfl

/-- A key that is longer than its column, and spellings with spaces and commas. -/
theorem Command.list_readable_league :
    let league : Measure :=
      ⟨"international-league", ["lg", "league,sea", "sea  leagues,"], .length, 5556.0⟩
    let celsius := Measure.temperature "celsius" ["c", "degree Celsius"]
    ∃ c, Catalog.ofList? [league, celsius] = .ok c ∧
      (∀ m ∈ [league, celsius], m.Legible .all) ∧
      ∃ lines, lines.map Listed.ofLine =
          [⟨"international-league", "Length", "5556.0", ["lg", "league,sea", "sea  leagues,"]⟩,
            ⟨"celsius", "Temperature", "formula", ["c", "degree Celsius"]⟩] ∧
        LineBreaks.all.lines (plainText .output (list c).items) =
          columns "Unit" "Category" "Scale" "Aliases" :: String.ofList (List.replicate 72 '-') ::
            lines ++ [""] := by
  intro league celsius
  let c : Catalog := ⟨[league, celsius], by decide, by decide +kernel⟩
  have h : Catalog.ofList? [league, celsius] = .ok c := Catalog.ofList?_eq_ok_iff.mpr rfl
  have hleague : league.Legible .all :=
    ⟨by decide, by decide, by decide, by decide, by decide⟩
  have hcelsius : celsius.Legible .all :=
    ⟨by decide, by decide, by decide, by decide, by decide⟩
  have hlegible : ∀ m ∈ [league, celsius], m.Legible .all :=
    List.forall_mem_cons.mpr ⟨hleague, List.forall_mem_singleton.mpr hcelsius⟩
  obtain ⟨lines, _, _, hlines, hread, _⟩ := Command.list_readable h .all hlegible
  exact ⟨c, h, hlegible, lines, hread.trans (by decide), hlines⟩

end Measures
