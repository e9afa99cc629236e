import ClassMetrics.Proofs.Data.Keyed
import ClassMetrics.Proofs.Report.TextTable
import ClassMetrics.Report.Format

namespace ClassMetrics

namespace Report

theorem Printout.broken_append (first second : Printout) :
    (first ++ second).broken = (first.broken || second.broken) := by
  change (Printout.append first second).broken = _
  obtain ⟨lines, broken⟩ := first
  cases broken <;> rfl

theorem broken_textTable (margin other : String) (rows : List (List Value.Field)) :
    (textTable margin rows).broken = (textTable other rows).broken := by
  by_cases wide : ∃ width ∈ widthsOf rows, 65535 < width
  · rw [textTable_of_wide wide, textTable_of_wide wide]
  · have narrow : ∀ width ∈ widthsOf rows, width ≤ 65535 := by simpa using wide
    rw [textTable_of_narrow narrow, textTable_of_narrow narrow]
    rfl

theorem broken_textList (depth : Nat) (items : List Value) :
    (textList depth items).broken = (textList 0 items).broken := by
  unfold textList
  split
  · rfl
  · split
    · exact broken_textTable _ _ _
    · rfl

/-- A nested value that breaks off. -/
def breaks (value : Value) : Bool :=
  isNested value && (textLines 0 value).broken

mutual

theorem broken_textLines (depth : Nat) : (value : Value) → (textLines depth value).broken = (textLines 0 value).broken
  | .record fields => by
      rw [textLines, textLines, broken_textFields depth fields, broken_textFields 0 fields]
  | .list items => by
      rw [textLines, textLines, broken_textList]
  | .null | .bool _ | .int _ | .float _ | .text _ => by
      rw [textLines, textLines]
      rfl

/-- The fields break off if one of them does. -/
theorem broken_textFields (depth : Nat) : (fields : List Value.Field) →
    (textFields depth fields).broken = fields.any fun field => breaks field.2
  | [] => by
      rw [textFields]
      rfl
  | (key, value) :: rest => by
      rw [textFields, Printout.broken_append, broken_textFields depth rest, List.any_cons]
      congr 1
      rw [breaks]
      cases nested : isNested value with
      | false => rfl
      | true =>
          rw [if_pos rfl, Printout.broken_append, broken_textLines (depth + 1) value]
          rfl

end

theorem broken_object (fields : List Value.Field) :
    (textLines 0 (.object fields)).broken =
      (Keyed.ofList (fields.map fun field => (field.1, breaks field.2))).any (·.2) := by
  rw [Value.object, textLines, broken_textFields, ← Keyed.map_ofList breaks, List.any_map]
  rfl

end Report

namespace Format

/-- A text among the fields, such as the time of a report, has no part in it. -/
theorem breaksOff_text (format : Format) (key text other : String) (fields : List Value.Field) :
    format.breaksOff (.object ((key, .text text) :: fields)) =
      format.breaksOff (.object ((key, .text other) :: fields)) := by
  rw [breaksOff, breaksOff, Report.broken_object, Report.broken_object]
  rfl

theorem breaksOff_pair (format : Format) {key other : String} (apart : key ≠ other) (first second : List Value.Field) :
    format.breaksOff (.object [(key, .object first), (other, .object second)]) =
      (format.breaksOff (.object first) || format.breaksOff (.object second)) := by
  have either (one two : Bool) : (Keyed.ofList [(key, one), (other, two)]).any (·.2) = (one || two) := by
    simp only [Keyed.ofList, List.foldl_cons, List.foldl_nil, Keyed.insert]
    split_ifs with before same
    · simp [Bool.or_comm]
    · exact absurd same.symm apart
    · simp
  simp only [breaksOff, Report.broken_object [(key, _), _], List.map_cons, List.map_nil, either]
  cases format == .text <;> rfl

end Format

end ClassMetrics
