import ClassMetrics.Report.Cell

namespace ClassMetrics.Report

/-!
Tables of aligned columns. A column is as wide as its widest cell, counted in characters; two blanks
stand between columns, and blanks at the end of a line are dropped. A column can be too wide to be filled up
with blanks: then writing breaks off.
-/

/-- Lines that were written one after the other, and whether writing broke off after them. -/
structure Printout where
  lines : List String
  broken : Bool
deriving Repr, DecidableEq

namespace Printout

def ofLines (lines : List String) : Printout := ⟨lines, false⟩

/-- Nothing is written once writing has broken off. -/
protected def append (first second : Printout) : Printout :=
  if first.broken then first else ⟨first.lines ++ second.lines, second.broken⟩

instance : Append Printout := ⟨Printout.append⟩

/-- Lines up to the first that cannot be set. -/
def ofLines? : List (Option String) → Printout
  | [] => ofLines []
  | none :: _ => ⟨[], true⟩
  | some line :: rest => ofLines [line] ++ ofLines? rest

end Printout

def padded (width : Nat) (cell : List Char) : List Char :=
  cell ++ List.replicate (width - cell.length) ' '

/-- The width of a field is a number of sixteen bits. -/
def widestField : Nat := 0xffff

def pad (width : Nat) (cell : List Char) : Option (List Char) :=
  if width ≤ widestField then some (padded width cell) else none

/-- A line before its margin is put in front and its end is trimmed. -/
def alignedRow (widths : List Nat) (cells : List (List Char)) : Option (List Char) := do
  let fields ← (widths.zip cells).mapM fun field => pad field.1 field.2
  return [' ', ' '].intercalate fields

/-- The widest cell of each column among `rows`. -/
def columnWidths (count : Nat) (rows : List (List (List Char))) : List Nat :=
  (List.range count).map fun column =>
    (rows.map fun row => (row.getD column []).length).foldl max 0

/-- Header and shown rows as cells. -/
def tableCells (rows : List (List Value.Field)) : List (List (List Char)) :=
  let keys := columns rows
  let shown := (rows.take shownRows).map (rowCells keys)
  (keys.map title :: shown).map fun row => row.map String.toList

def textTable (margin : String) (rows : List (List Value.Field)) : Printout :=
  let cells := tableCells rows
  let widths := columnWidths (columns rows).length cells
  let aligned := Printout.ofLines? (cells.map fun row =>
    (alignedRow widths row).map fun line => margin ++ String.ofList (Text.trimEnd line))
  if shownRows < rows.length then aligned ++ .ofLines [s!"{margin}... {rows.length - shownRows} more"]
  else aligned

end ClassMetrics.Report
