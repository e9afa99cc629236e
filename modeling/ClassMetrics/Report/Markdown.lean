import ClassMetrics.Report.Cell

namespace ClassMetrics.Report

/-- Headings go six levels deep. -/
def heading (depth : Nat) (key : String) : String :=
  String.ofList (List.replicate (min (depth + 1) 6) '#') ++ " " ++ title key

/-- A row of a pipe table. -/
def pipeRow (cells : List String) : String :=
  "|" ++ String.join (cells.map fun cell => " " ++ cell ++ " |")

def markdownTable (rows : List (List Value.Field)) : List String :=
  let keys := columns rows
  let shown := (rows.take shownRows).map fun row => pipeRow (rowCells keys row)
  let omitted :=
    if shownRows < rows.length then ["", s!"_{rows.length - shownRows} more not shown_"] else []
  [pipeRow (keys.map title), pipeRow (keys.map fun _ => "---")] ++ shown ++ omitted ++ [""]

def markdownList (items : List Value) : List String :=
  if items.isEmpty then ["_No items_", ""]
  else
    match tableRows? items with
    | some rows => markdownTable rows
    | none => (items.take shownRows).map (fun item => "- " ++ cell item) ++ [""]

mutual

def markdownLines (depth : Nat) : Value → List String
  | .record fields => markdownFields depth fields
  | .list items => markdownList items
  | .null => [cell .null, ""]
  | .bool value => [cell (.bool value), ""]
  | .int value => [cell (.int value), ""]
  | .float value => [cell (.float value), ""]
  | .text value => [cell (.text value), ""]

def markdownFields (depth : Nat) : List (String × Value) → List String
  | [] => []
  | (key, value) :: rest =>
      (if isNested value then heading depth key :: "" :: markdownLines (depth + 1) value
       else [s!"**{title key}**: {cell value}", ""]) ++ markdownFields depth rest

end

def markdown (value : Value) : String :=
  String.join ((markdownLines 0 value).map (· ++ "\n"))

end ClassMetrics.Report
