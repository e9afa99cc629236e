import ClassMetrics.Report.TextTable

namespace ClassMetrics.Report

def margin (depth : Nat) : String :=
  Value.indentation depth

def textList (depth : Nat) (items : List Value) : Printout :=
  if items.isEmpty then .ofLines [margin depth ++ "(none)"]
  else
    match tableRows? items with
    | some rows => textTable (margin depth) rows
    | none => .ofLines ((items.take shownRows).map fun item => margin depth ++ cell item)

mutual

def textLines (depth : Nat) : Value → Printout
  | .record fields => textFields depth fields
  | .list items => textList depth items
  | .null => .ofLines [margin depth ++ cell .null]
  | .bool value => .ofLines [margin depth ++ cell (.bool value)]
  | .int value => .ofLines [margin depth ++ cell (.int value)]
  | .float value => .ofLines [margin depth ++ cell (.float value)]
  | .text value => .ofLines [margin depth ++ cell (.text value)]

def textFields (depth : Nat) : List (String × Value) → Printout
  | [] => .ofLines []
  | (key, value) :: rest =>
      (if isNested value then .ofLines [s!"{margin depth}{title key}:"] ++ textLines (depth + 1) value
       else .ofLines [s!"{margin depth}{title key}: {cell value}"]) ++ textFields depth rest

end

/-- The text of a report, up to where writing breaks off. -/
def plainText (value : Value) : String :=
  String.join ((textLines 0 value).lines.map (· ++ "\n"))

end ClassMetrics.Report
