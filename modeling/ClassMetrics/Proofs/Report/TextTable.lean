import ClassMetrics.Proofs.Text.Blank
import ClassMetrics.Report.PlainText
import Mathlib.Algebra.GroupWithZero.Nat
import Mathlib.Data.List.Forall2
import Mathlib.Data.List.GetD

namespace ClassMetrics.Report

/-!
Where the cells of a text table stand. Every line, the header among them, has the cell of a column behind the widest
cells of the columns before it and the two blanks after each of them, and nothing but blanks up to the next column.
Of a table with a column too wide for that no line is written.
-/

/-- A missing key is shown like null. -/
def shownCell (key : String) (row : List Value.Field) : String :=
  ((Keyed.get? key row).map cell).getD "-"

/-- The titles of the columns, and below them the cells of the rows that are shown. -/
def cellTexts (rows : List (List Value.Field)) : List (List String) :=
  (columns rows).map title :: (rows.take 50).map fun row => (columns rows).map fun key => shownCell key row

/-- Where a column starts: behind those before it and two blanks after each. -/
def columnStart (widths : List Nat) (column : Nat) : Nat :=
  ((widths.take column).map (· + 2)).sum

/-- The length of a longest cell of a column, in characters. -/
def Widest (lines : List (List String)) (column width : Nat) : Prop :=
  (∃ cells ∈ lines, ∃ text, cells[column]? = some text ∧ text.length = width) ∧
    ∀ cells ∈ lines, ∀ text, cells[column]? = some text → text.length ≤ width

/-- Every cell stands whole where its column starts, with blanks behind it up to the next column or the end. -/
def Aligned (widths : List Nat) (cells : List String) (row : List Char) : Prop :=
  ∀ column text, cells[column]? = some text →
    ∃ before gap after, row = before ++ text.toList ++ List.replicate gap ' ' ++ after ∧
      before.length = columnStart widths column ∧
      (after = [] ∨ before.length + text.length + gap = columnStart widths (column + 1))

theorem columnStart_cons (width : Nat) (widths : List Nat) (column : Nat) :
    columnStart (width :: widths) (column + 1) = width + 2 + columnStart widths column := by
  simp [columnStart]

section Rows

variable {widths : List Nat} {cells : List String}

theorem length_padded {width : Nat} {text : List Char} (fits : text.length ≤ width) :
    (padded width text).length = width := by
  simp [padded, fits]

/-- The fields of a line with two blanks between them. -/
def spacedRow (widths : List Nat) (cells : List (List Char)) : List Char :=
  [' ', ' '].intercalate (List.zipWith padded widths cells)

theorem spacedRow_cons_cons (width next : Nat) (widths : List Nat) (text other : List Char)
    (texts : List (List Char)) :
    spacedRow (width :: next :: widths) (text :: other :: texts) =
      padded width text ++ [' ', ' '] ++ spacedRow (next :: widths) (other :: texts) := by
  simp [spacedRow, List.intercalate_cons_cons]

theorem pad_eq_some {width : Nat} (narrow : width ≤ 65535) (text : List Char) :
    pad width text = some (padded width text) :=
  if_pos narrow

theorem pad_eq_none {width : Nat} (wide : 65535 < width) (text : List Char) : pad width text = none :=
  if_neg (Nat.not_le_of_lt wide)

theorem mapM_pad_eq_some {texts : List (List Char)} (narrow : ∀ width ∈ widths, width ≤ 65535) :
    ((widths.zip texts).mapM fun field => pad field.1 field.2) = some (List.zipWith padded widths texts) := by
  induction widths generalizing texts with
  | nil => rfl
  | cons width rest ih =>
      cases texts with
      | nil => rfl
      | cons text texts =>
          obtain ⟨first, others⟩ := List.forall_mem_cons.mp narrow
          simp only [List.zip_cons_cons, List.mapM_cons, ih others, pad_eq_some first]
          rfl

theorem mapM_pad_eq_none {texts : List (List Char)} (sameLength : widths.length = texts.length)
    (wide : ∃ width ∈ widths, 65535 < width) :
    ((widths.zip texts).mapM fun field => pad field.1 field.2) = none := by
  induction widths generalizing texts with
  | nil => simp at wide
  | cons width rest ih =>
      cases texts with
      | nil => simp at sameLength
      | cons text texts =>
          rcases Nat.lt_or_ge 65535 width with first | first
          · simp only [List.zip_cons_cons, List.mapM_cons, pad_eq_none first]
            rfl
          · have later : ∃ width ∈ rest, 65535 < width := by
              obtain ⟨found, member, beyond⟩ := wide
              rcases List.mem_cons.mp member with rfl | later
              · omega
              · exact ⟨found, later, beyond⟩
            simp only [List.zip_cons_cons, List.mapM_cons, ih (by simpa using sameLength) later, pad_eq_some first]
            rfl

theorem alignedRow_eq_some (narrow : ∀ width ∈ widths, width ≤ 65535) (texts : List (List Char)) :
    alignedRow widths texts = some (spacedRow widths texts) := by
  rw [alignedRow, mapM_pad_eq_some narrow]
  rfl

theorem alignedRow_eq_none {texts : List (List Char)} (sameLength : widths.length = texts.length)
    (wide : ∃ width ∈ widths, 65535 < width) : alignedRow widths texts = none := by
  rw [alignedRow, mapM_pad_eq_none sameLength wide]
  rfl

/-- Two blanks and another row behind the first cell leave the cells of that row where its columns start. -/
theorem aligned_cons {width : Nat} {text : String} {row : List Char} (fits : text.length ≤ width)
    (rest : Aligned widths cells row) :
    Aligned (width :: widths) (text :: cells) (padded width text.toList ++ [' ', ' '] ++ row) := by
  intro column found here
  cases column with
  | zero =>
      cases here
      refine ⟨[], width - text.length + 2, row, ?_, rfl, .inr ?_⟩
      · simp [padded, List.replicate_add, String.length_toList]
      · rw [columnStart_cons]
        simp [columnStart]
        omega
  | succ column =>
      obtain ⟨before, gap, after, parts, starts, ends⟩ := rest column found here
      have lead : (padded width text.toList ++ [' ', ' '] ++ before).length = width + 2 + before.length := by
        rw [List.length_append, List.length_append, length_padded (String.length_toList ▸ fits)]
        rfl
      refine ⟨padded width text.toList ++ [' ', ' '] ++ before, gap, after, by simp [parts], ?_, ?_⟩
      · rw [lead, starts, columnStart_cons]
      · rw [lead, columnStart_cons]
        rcases ends with last | next
        · exact .inl last
        · exact .inr (by omega)

theorem aligned_spacedRow (fits : List.Forall₂ (fun text width => text.length ≤ width) cells widths) :
    Aligned widths cells (spacedRow widths (cells.map String.toList)) := by
  induction fits with
  | nil =>
      intro column found here
      simp at here
  | @cons text width cells widths fitsHere others ih =>
      cases others with
      | nil =>
          intro column found here
          cases column with
          | zero =>
              cases here
              exact ⟨[], width - text.length, [], by simp [spacedRow, padded, String.length_toList], rfl, .inl rfl⟩
          | succ column => simp at here
      | cons fitsNext others =>
          rw [List.map_cons, List.map_cons, spacedRow_cons_cons]
          exact aligned_cons fitsHere ih

end Rows

section Widths

variable {rows : List (List Value.Field)}

theorem foldl_max_spec {numbers : List Nat} (nonempty : numbers ≠ []) :
    numbers.foldl max 0 ∈ numbers ∧ ∀ number ∈ numbers, number ≤ numbers.foldl max 0 := by
  cases highest : numbers.max? with
  | none => exact absurd (List.max?_eq_none_iff.mp highest) nonempty
  | some number =>
      rw [List.foldl_max, highest, Option.getD_some, Nat.zero_max]
      exact List.max?_eq_some_iff.mp highest

theorem tableCells_eq (rows : List (List Value.Field)) :
    tableCells rows = (cellTexts rows).map fun cells => cells.map String.toList := by
  have missing : cell .null = "-" := by simp [cell]
  have shown : rowCells (columns rows) = fun row => (columns rows).map fun key => shownCell key row := by
    funext row
    apply List.map_congr_left
    intro key _
    cases found : Keyed.get? key row <;> simp [shownCell, found, missing]
  simp only [tableCells, cellTexts, shownRows, shown]

theorem length_of_mem_cellTexts {cells : List String} (member : cells ∈ cellTexts rows) :
    cells.length = (columns rows).length := by
  simp only [cellTexts, List.mem_cons, List.mem_map] at member
  rcases member with rfl | ⟨row, _, rfl⟩
  · rw [List.length_map]
  · rw [List.length_map]

/-- The widths that the table is set in. -/
def widthsOf (rows : List (List Value.Field)) : List Nat :=
  columnWidths (columns rows).length (tableCells rows)

theorem length_widthsOf (rows : List (List Value.Field)) : (widthsOf rows).length = (columns rows).length := by
  simp [widthsOf, columnWidths]

theorem width_eq_foldl {column width : Nat} (found : (widthsOf rows)[column]? = some width) :
    column < (columns rows).length ∧
      width = ((cellTexts rows).map fun cells => (cells.getD column "").length).foldl max 0 := by
  have inside : column < (columns rows).length := by
    rw [← length_widthsOf]
    exact (List.getElem?_eq_some_iff.mp found).1
  have lengths (cells : List String) :
      ((cells.map String.toList).getD column []).length = (cells.getD column "").length := by
    have mapped : (cells.map String.toList).getD column "".toList = (cells.getD column "").toList :=
      List.getD_map cells "" String.toList
    rw [← String.length_toList, ← mapped]
    rfl
  refine ⟨inside, ?_⟩
  rw [widthsOf, columnWidths, List.getElem?_map, List.getElem?_range inside, Option.map_some] at found
  rw [← Option.some.inj found, tableCells_eq, List.map_map]
  simp only [Function.comp_def, lengths]

theorem widest_widthsOf {column width : Nat} (found : (widthsOf rows)[column]? = some width) :
    Widest (cellTexts rows) column width := by
  obtain ⟨inside, rfl⟩ := width_eq_foldl found
  have here {cells : List String} (member : cells ∈ cellTexts rows) :
      cells[column]? = some (cells.getD column "") := by
    have within : column < cells.length := by rwa [length_of_mem_cellTexts member]
    rw [List.getD_eq_getElem _ _ within, List.getElem?_eq_getElem within]
  obtain ⟨reached, bounds⟩ :=
    @foldl_max_spec ((cellTexts rows).map fun cells => (cells.getD column "").length) (by simp [cellTexts])
  constructor
  · obtain ⟨cells, member, length⟩ := List.mem_map.mp reached
    exact ⟨cells, member, _, here member, length⟩
  · intro cells member text same
    rw [here member] at same
    cases same
    exact bounds _ (List.mem_map.mpr ⟨cells, member, rfl⟩)

theorem fits_widthsOf {cells : List String} (member : cells ∈ cellTexts rows) :
    List.Forall₂ (fun text width => text.length ≤ width) cells (widthsOf rows) := by
  rw [List.forall₂_iff_get]
  refine ⟨by rw [length_of_mem_cellTexts member, length_widthsOf], ?_⟩
  intro column inCells inWidths
  exact (widest_widthsOf (List.getElem?_eq_getElem inWidths)).2 cells member _ (List.getElem?_eq_getElem inCells)

end Widths

theorem tableRows?_record {rows : List (List Value.Field)}
    (flat : ∀ row ∈ rows, ∀ field ∈ row, field.2.isRecord = false) :
    tableRows? (rows.map .record) = some rows := by
  induction rows with
  | nil => rfl
  | cons row rest ih =>
      obtain ⟨first, others⟩ := List.forall_mem_cons.mp flat
      have fine : flatRow? (.record row) = some row := by
        rw [flatRow?, if_neg]
        simpa using first
      have later := ih others
      unfold tableRows? at later ⊢
      rw [List.map_cons, List.mapM_cons, fine, later]
      rfl

theorem textLines_record {rows : List (List Value.Field)} (nonempty : rows ≠ [])
    (flat : ∀ row ∈ rows, ∀ field ∈ row, field.2.isRecord = false) (depth : Nat) :
    textLines depth (.list (rows.map .record)) = textTable (margin depth) rows := by
  have something : (rows.map Value.record).isEmpty = false := by simpa using nonempty
  rw [textLines, textList, something, tableRows?_record flat]
  rfl

/-- The line that says how many rows are left out. -/
def omittedNotice (margin : String) (count : Nat) : List String :=
  if 50 < count then [margin ++ "... " ++ toString (count - 50) ++ " more"] else []

namespace Printout

theorem ofLines_append (first second : List String) :
    (ofLines first ++ ofLines second : Printout) = ofLines (first ++ second) := rfl

theorem append_ofLines_nil (first : Printout) : first ++ ofLines [] = first := by
  change Printout.append first (ofLines []) = first
  obtain ⟨lines, broken⟩ := first
  cases broken with
  | true => rfl
  | false => simp [Printout.append, ofLines]

theorem append_of_broken {first : Printout} (broken : first.broken = true) (second : Printout) :
    first ++ second = first := by
  change Printout.append first second = first
  rw [Printout.append, if_pos broken]

theorem ofLines?_map_some {α : Type} (line : α → String) (entries : List α) :
    ofLines? (entries.map fun entry => some (line entry)) = ofLines (entries.map line) := by
  induction entries with
  | nil => rfl
  | cons entry rest ih => rw [List.map_cons, ofLines?, ih, ofLines_append, List.map_cons, List.singleton_append]

end Printout

section Table

variable {rows : List (List Value.Field)}

theorem textTable_eq (margin : String) (rows : List (List Value.Field)) :
    textTable margin rows =
      Printout.ofLines? ((cellTexts rows).map fun cells =>
        (alignedRow (widthsOf rows) (cells.map String.toList)).map fun row =>
          margin ++ String.ofList (Text.trimEnd row)) ++
      .ofLines (omittedNotice margin rows.length) := by
  simp only [textTable, omittedNotice, widthsOf, tableCells_eq, List.map_map, shownRows]
  split
  · rfl
  · rw [Printout.append_ofLines_nil]
    rfl

/-- The lines of a table whose columns can all be set. -/
theorem textTable_of_narrow (narrow : ∀ width ∈ widthsOf rows, width ≤ 65535) (margin : String) :
    textTable margin rows = .ofLines (((cellTexts rows).map fun cells =>
      margin ++ String.ofList (Text.trimEnd (spacedRow (widthsOf rows) (cells.map String.toList)))) ++
      omittedNotice margin rows.length) := by
  simp only [textTable_eq, alignedRow_eq_some narrow, Option.map_some, Printout.ofLines?_map_some,
    Printout.ofLines_append]

/-- Writing breaks off before the header. -/
theorem textTable_of_wide (wide : ∃ width ∈ widthsOf rows, 65535 < width) (margin : String) :
    textTable margin rows = ⟨[], true⟩ := by
  have header : alignedRow (widthsOf rows) (((columns rows).map title).map String.toList) = none :=
    alignedRow_eq_none (by simp [length_widthsOf]) wide
  rw [textTable_eq, cellTexts, List.map_cons, header]
  exact Printout.append_of_broken rfl _

end Table

/-- A non-empty list of flat records is set as a table if no column is wider than 65535 characters: a header, a line
for each of the first fifty records, and the notice if there are more. Before blanks at the ends of lines are dropped,
the cell of a column starts in every line behind the widest cells of the columns before it, each with two blanks. Of a
table with a wider column nothing is written, and writing breaks off. -/
theorem textTable_aligned_or_broken {rows : List (List Value.Field)} (nonempty : rows ≠ [])
    (flat : ∀ row ∈ rows, ∀ field ∈ row, field.2.isRecord = false) :
    (∀ depth, textLines depth (.list (rows.map .record)) = textTable (margin depth) rows) ∧
      ∃ widths : List Nat, widths.length = (columns rows).length ∧
        (∀ column width, widths[column]? = some width → Widest (cellTexts rows) column width) ∧
        ((∀ width ∈ widths, width ≤ 65535) → ∀ margin : String, ∃ shown : List String,
          textTable margin rows = .ofLines (shown ++ omittedNotice margin rows.length) ∧
          List.Forall₂ (fun cells line => ∃ row kept, Aligned widths cells row ∧ Text.TrimsTo row kept ∧
            line = margin ++ String.ofList kept) (cellTexts rows) shown) ∧
        ((∃ width ∈ widths, 65535 < width) → ∀ margin : String, textTable margin rows = ⟨[], true⟩) := by
  refine ⟨textLines_record nonempty flat, widthsOf rows, length_widthsOf rows, fun _ _ => widest_widthsOf, ?_,
    textTable_of_wide⟩
  intro narrow margin
  refine ⟨_, textTable_of_narrow narrow margin, ?_⟩
  rw [List.forall₂_map_right_iff, List.forall₂_same]
  intro cells member
  exact ⟨_, _, aligned_spacedRow (fits_widthsOf member), Text.trimsTo_trimEnd _, rfl⟩

/-- One row more than is shown. All but the first lack the first column. -/
def longRows : List (List Value.Field) :=
  [("class", .text "p/Größe"), ("lcom", .int 7)] :: List.replicate 50 [("lcom", .int 12)]

/-- One row with one cell of a given length. -/
def longCell (length : Nat) : List (List Value.Field) :=
  [[("methods", .text (String.ofList (List.replicate length 'm')))]]

theorem mem_cellTexts_longCell (length : Nat) :
    [String.ofList (List.replicate length 'm')] ∈ cellTexts (longCell length) := by
  simp [cellTexts, longCell, columns, shownCell, Keyed.get?, cell]

theorem flat_longCell (length : Nat) : ∀ row ∈ longCell length, ∀ field ∈ row, field.2.isRecord = false := by
  simp [longCell, Value.isRecord]

theorem longRows_aligned_longCell_broken :
    longRows ≠ [] ∧ (∀ row ∈ longRows, ∀ field ∈ row, field.2.isRecord = false) ∧
      (∃ widths shown, (∀ column width, widths[column]? = some width → Widest (cellTexts longRows) column width) ∧
        textLines 1 (.list (longRows.map .record)) = .ofLines (shown ++ ["  ... 1 more"]) ∧
        List.Forall₂ (fun cells line => ∃ row kept, Aligned widths cells row ∧ Text.TrimsTo row kept ∧
          line = "  " ++ String.ofList kept) (cellTexts longRows) shown) ∧
      textTable "" (longCell 65536) = ⟨[], true⟩ := by
  have nonempty : longRows ≠ [] := List.cons_ne_nil _ _
  have flat : ∀ row ∈ longRows, ∀ field ∈ row, field.2.isRecord = false := by decide
  refine ⟨nonempty, flat, ?_, ?_⟩
  · obtain ⟨asTable, widths, _, widest, lines, _⟩ := textTable_aligned_or_broken nonempty flat
    have short : ∀ cells ∈ cellTexts longRows, ∀ text ∈ cells, text.length ≤ 65535 := by decide +kernel
    have narrow : ∀ width ∈ widths, width ≤ 65535 := by
      intro width member
      obtain ⟨column, found⟩ := List.mem_iff_getElem?.mp member
      obtain ⟨⟨cells, among, text, here, rfl⟩, _⟩ := widest column width found
      exact short cells among text (List.mem_of_getElem? here)
    obtain ⟨shown, table, aligned⟩ := lines narrow "  "
    have notice : omittedNotice "  " longRows.length = ["  ... 1 more"] := by decide +kernel
    have indented : margin 1 = "  " := by decide +kernel
    exact ⟨widths, shown, widest, by rw [asTable, indented, table, notice], aligned⟩
  · generalize exact : 65536 = length
    have nonempty : longCell length ≠ [] := List.cons_ne_nil _ _
    obtain ⟨_, widths, count, widest, _, broken⟩ := textTable_aligned_or_broken nonempty (flat_longCell length)
    obtain ⟨width, rfl⟩ := List.length_eq_one_iff.mp count
    have reached := (widest 0 width rfl).2 _ (mem_cellTexts_longCell length) _ rfl
    rw [String.length_ofList, List.length_replicate] at reached
    exact broken ⟨width, List.mem_singleton_self _, by omega⟩ ""

/-- A cell of one character more than a column can have is not shown at all, nor is its title. -/
theorem longCell_not_shown :
    longCell 65536 ≠ [] ∧ (∀ row ∈ longCell 65536, ∀ field ∈ row, field.2.isRecord = false) ∧
      textLines 0 (.list ((longCell 65536).map .record)) = ⟨[], true⟩ := by
  generalize exact : 65536 = length
  have nonempty : longCell length ≠ [] := List.cons_ne_nil _ _
  refine ⟨nonempty, flat_longCell length, ?_⟩
  rw [textLines_record nonempty (flat_longCell length)]
  apply textTable_of_wide
  have fits := fits_widthsOf (mem_cellTexts_longCell length)
  obtain ⟨width, rest, reached, _, same⟩ := List.forall₂_cons_left_iff.mp fits
  refine ⟨width, by rw [same]; exact List.mem_cons_self, ?_⟩
  rw [String.length_ofList, List.length_replicate] at reached
  omega

example : textTable "" [[("class", .text "p/A"), ("lcom", .int 12)], [("lcom", .int 3)]] =
    .ofLines ["Class  Lcom", "p/A    12", "-      3"] := by decide +kernel

end ClassMetrics.Report
